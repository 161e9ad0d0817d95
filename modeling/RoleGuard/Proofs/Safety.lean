import RoleGuard.Proofs.Grantor

/-! # No Escalation

    Coverage is decided by comparing lists. What it is meant to guarantee is
    said about accesses: whoever creates a role that was let through hands
    on no access that the grantor lacks. The wildcard on either side, empty
    axes and missing instance names are all hidden in `Rule.allows`.
-/

namespace RoleGuard

/-! ## Accesses of a list of rules -/

/-- Some rule of the list allows the access. -/
def Allowed (rules : List Rule) (a : Access) : Prop :=
  ∃ r ∈ rules, r.allows a

namespace Grantor

/-- Each access that the request would allow is allowed to the grantor already. -/
def Safe (g : Grantor) (q : Request) : Prop :=
  ∀ a, Allowed q.rules a → Allowed g.granted a

variable {g : Grantor} {q : Request} {r : Rule}

/-- A rule that can be granted allows only what some held rule allows. -/
theorem allowed_of_canGrant (hr : g.canGrant r = true) {a : Access} (ha : r.allows a) :
    Allowed g.granted a := by
  obtain ⟨held, hheld, hcov⟩ := canGrant_iff.mp hr
  exact ⟨held, hheld, Rule.allows_of_covers hcov ha⟩

/-- A request that passes the check is safe. -/
theorem safe_of_check (hq : g.check q = none) : g.Safe q := by
  intro a hallowed
  obtain ⟨r, hr, ha⟩ := hallowed
  have hgrant : g.canGrant r = true := check_eq_none_iff.mp hq r hr
  exact allowed_of_canGrant hgrant ha

/-! ## Main theorem -/

/-- **No escalation.** A request that passes the check is safe; if no error
    is found in a list of requests, or their report is fine, then all of
    them are safe. -/
theorem no_escalation (g : Grantor) (qs : List Request) :
    (∀ q, g.check q = none → g.Safe q)
    ∧ (g.checkAll qs = [] → ∀ q ∈ qs, g.Safe q)
    ∧ ((g.report qs).ok = true → ∀ q ∈ qs, g.Safe q) := by
  refine ⟨?_, ?_, ?_⟩
  · intro q hq
    exact safe_of_check hq
  · intro hall q hq
    exact safe_of_check (checkAll_eq_nil_iff.mp hall q hq)
  · intro hok q hq
    exact safe_of_check (report_ok_iff.mp hok q hq)

/-- The theorem at a role whose rule asks for the wildcard on one axis and for
    nothing on another, held by a rule that is restricted to the name it asks for. -/
theorem no_escalation_at_wildcards :
    let g : Grantor := { granted := [⟨["", "apps"], ["*"], ["get", "list"], ["web"]⟩] }
    let q : Request := ⟨"reader", none, "Role", [⟨[], ["*"], ["get"], ["web"]⟩,
      ⟨["apps"], ["*", "pods"], ["list"], ["web"]⟩]⟩
    g.check q = none ∧ g.Safe q := by
  intro g q
  have hcheck : g.check q = none := by decide
  exact ⟨hcheck, (no_escalation g [q]).1 q hcheck⟩

end Grantor

end RoleGuard

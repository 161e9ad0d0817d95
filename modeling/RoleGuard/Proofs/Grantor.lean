import RoleGuard.Proofs.Coverage
import RoleGuard.Report

/-! # What Grantors Answer

    A grantor is asked about a role in several ways: for the first missing
    rule, for all missing rules, for a report. Each answer recomputes
    coverage with a loop of its own. Here every answer is expressed by the
    missing rules, so that a fact about them is a fact about all answers.
-/

namespace RoleGuard

namespace Grantor

variable {g h : Grantor} {q : Request} {r : Rule}

/-! ## Single rules -/

theorem canGrant_iff : g.canGrant r = true ↔ ∃ held ∈ g.granted, held.covers r = true := by
  unfold canGrant
  exact List.any_eq_true

theorem canGrant_eq_false_iff :
    g.canGrant r = false ↔ ∀ held ∈ g.granted, held.covers r = false := by
  unfold canGrant
  simp only [List.any_eq_false, Bool.not_eq_true]

theorem canGrant_of_mem (hr : r ∈ g.granted) : g.canGrant r = true :=
  canGrant_iff.mpr ⟨r, hr, r.covers_refl⟩

/-! ## Missing rules -/

theorem missing_eq_nil_iff : g.missing q = [] ↔ ∀ r ∈ q.rules, g.canGrant r = true := by
  unfold missing
  simp [List.filter_eq_nil_iff]

/-- Grantors that can grant the same rules miss the same rules. -/
theorem missing_congr (hgh : ∀ r, g.canGrant r = h.canGrant r) (q : Request) :
    g.missing q = h.missing q := by
  unfold missing
  simp only [hgh]

/-! ## The answers about one request -/

/-- The loop that stops at the first missing rule finds the head of the missing rules. -/
theorem check_eq_head? (g : Grantor) (q : Request) :
    g.check q = (g.missing q).head?.map fun r => ⟨q.name, r⟩ := by
  unfold check missing
  rw [List.head?_filter]

theorem check_eq_none_iff_missing : g.check q = none ↔ g.missing q = [] := by
  rw [check_eq_head?, Option.map_eq_none_iff, List.head?_eq_none_iff]

theorem check_eq_none_iff : g.check q = none ↔ ∀ r ∈ q.rules, g.canGrant r = true :=
  check_eq_none_iff_missing.trans missing_eq_nil_iff

theorem check_eq_some_iff {e : Escalation} :
    g.check q = some e ↔ e.role = q.name ∧ (g.missing q).head? = some e.rule := by
  rw [check_eq_head?, Option.map_eq_some_iff]
  constructor
  · rintro ⟨r, hr, rfl⟩
    exact ⟨rfl, hr⟩
  · rintro ⟨hrole, hr⟩
    exact ⟨e.rule, hr, by rw [← hrole]⟩

theorem validate_eq_ok_iff : g.validate q = .ok () ↔ g.check q = none := by
  unfold validate
  cases hc : g.check q <;> simp

theorem validate_eq_error_iff {e : Escalation} :
    g.validate q = .error e ↔ g.check q = some e := by
  unfold validate
  cases hc : g.check q <;> simp

/-! ## Findings -/

theorem finding?_eq_none_iff : g.finding? q = none ↔ g.check q = none := by
  unfold finding?
  exact Option.map_eq_none_iff

/-- The finding about a request that meets the error. -/
def findingAt (g : Grantor) (q : Request) (e : Escalation) : Finding :=
  ⟨q.name, e.message, g.missing q, g.suggest (g.missing q)⟩

theorem finding?_of_check {e : Escalation} (he : g.check q = some e) :
    g.finding? q = some (g.findingAt q e) := by
  unfold finding?
  rw [he]
  rfl

theorem finding?_eq_some_iff {f : Finding} :
    g.finding? q = some f ↔ ∃ e, g.check q = some e ∧ f = g.findingAt q e := by
  constructor
  · intro hf
    obtain ⟨e, he, rfl⟩ := Option.map_eq_some_iff.mp hf
    exact ⟨e, he, rfl⟩
  · rintro ⟨e, he, rfl⟩
    exact finding?_of_check he

/-! ## The answers about many requests -/

theorem checkAll_eq_nil_iff {qs : List Request} :
    g.checkAll qs = [] ↔ ∀ q ∈ qs, g.check q = none := by
  unfold checkAll
  exact List.filterMap_eq_nil_iff

theorem report_ok_iff {qs : List Request} :
    (g.report qs).ok = true ↔ ∀ q ∈ qs, g.check q = none := by
  unfold report Report.ok
  rw [List.isEmpty_iff, List.filterMap_eq_nil_iff]
  simp only [finding?_eq_none_iff]

/-- A finding of the report is the finding about one of the requests. -/
theorem mem_report_findings {qs : List Request} {f : Finding} :
    f ∈ (g.report qs).findings ↔ ∃ q ∈ qs, g.finding? q = some f := by
  unfold report
  exact List.mem_filterMap

end Grantor

end RoleGuard

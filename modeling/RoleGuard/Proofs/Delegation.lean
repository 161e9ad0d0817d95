import Mathlib.Data.List.Basic
import RoleGuard.Proofs.Grantor

/-! # Delegation

    A grantor dominates another one when it can grant each rule that the
    other holds. Since coverage is transitive, it can then grant whatever
    the other can grant: handing rules on never creates new permissions,
    and what a grantor may hand on depends only on what its rules cover,
    not on their order, their repetitions or rules that others cover.
-/

namespace RoleGuard

namespace Grantor

variable {g h : Grantor}

/-! ## Positions of failures -/

/-- The requests that cannot be granted, each with its position in the list. -/
def failing (g : Grantor) (qs : List Request) : List (Request × Nat) :=
  qs.zipIdx.filter fun p => (g.check p.1).isSome

/-- The findings of the report are the findings about the failing requests, in order. -/
theorem report_findings_eq (g : Grantor) (qs : List Request) :
    (g.report qs).findings = (g.failing qs).filterMap fun p => g.finding? p.1 := by
  have hfail : ∀ p : Request × Nat,
      (if (g.check p.1).isSome then g.finding? p.1 else none) = g.finding? p.1 := by
    intro p
    cases hc : g.check p.1 with
    | none => simpa using (finding?_eq_none_iff.mpr hc).symm
    | some e => simp
  calc (g.report qs).findings
      = (qs.zipIdx.map Prod.fst).filterMap g.finding? := by rw [List.zipIdx_map_fst]; rfl
    _ = qs.zipIdx.filterMap fun p => g.finding? p.1 := by rw [List.filterMap_map]; rfl
    _ = (g.failing qs).filterMap fun p => g.finding? p.1 := by
        unfold failing
        rw [List.filterMap_filter]
        simp only [hfail]

/-- Each failing request has one finding, which names its role. -/
theorem report_roles_eq (g : Grantor) (qs : List Request) :
    (g.report qs).findings.map Finding.role = (g.failing qs).map fun p => p.1.name := by
  have hrole : ∀ p ∈ g.failing qs,
      (g.finding? p.1).map Finding.role = some p.1.name := by
    intro p hp
    obtain ⟨e, he⟩ := Option.isSome_iff_exists.mp (List.mem_filter.mp hp).2
    rw [finding?_of_check he]
    rfl
  rw [report_findings_eq, List.map_filterMap, ← List.filterMap_eq_map]
  exact List.filterMap_congr hrole

/-! ## Domination -/

/-- `h` can grant every rule that `g` holds. -/
def Dominates (h g : Grantor) : Prop :=
  ∀ r ∈ g.granted, h.canGrant r = true

/-- The step through the intermediate rule: coverage is transitive. -/
theorem canGrant_of_dominates (hdom : h.Dominates g) {r : Rule} (hr : g.canGrant r = true) :
    h.canGrant r = true := by
  obtain ⟨held, hheld, hcov⟩ := canGrant_iff.mp hr
  obtain ⟨held', hheld', hcov'⟩ := canGrant_iff.mp (hdom held hheld)
  exact canGrant_iff.mpr ⟨held', hheld', Rule.covers_trans hcov' hcov⟩

theorem missing_sublist_of_dominates (hdom : h.Dominates g) (q : Request) :
    (h.missing q).Sublist (g.missing q) := by
  unfold missing
  apply List.monotone_filter_right
  intro r hr
  cases hg : g.canGrant r with
  | false => rfl
  | true =>
    rw [canGrant_of_dominates hdom hg] at hr
    exact absurd hr (by decide)

/-- A request that the dominated grantor lets through passes. -/
theorem check_eq_none_of_dominates (hdom : h.Dominates g) {q : Request}
    (hq : g.check q = none) : h.check q = none := by
  rw [check_eq_none_iff] at hq ⊢
  intro r hr
  exact canGrant_of_dominates hdom (hq r hr)

theorem failing_sublist_of_dominates (hdom : h.Dominates g) (qs : List Request) :
    (h.failing qs).Sublist (g.failing qs) := by
  unfold failing
  apply List.monotone_filter_right
  intro p hp
  cases hg : g.check p.1 with
  | none =>
    rw [check_eq_none_of_dominates hdom hg] at hp
    exact absurd hp (by decide)
  | some e => rfl

/-! ## Grantors that dominate each other -/

/-- Nothing that can be asked tells the two grantors apart. -/
structure SameAnswers (g h : Grantor) : Prop where
  /-- the same rules can be granted -/
  canGrant : ∀ r, g.canGrant r = h.canGrant r
  /-- a request meets the same first error -/
  check : ∀ q, g.check q = h.check q
  /-- the creation of a role ends in the same way -/
  validate : ∀ q, g.validate q = h.validate q
  /-- the same rules of a request are missing -/
  missing : ∀ q, g.missing q = h.missing q
  /-- a list of requests meets the same errors -/
  checkAll : ∀ qs, g.checkAll qs = h.checkAll qs
  /-- the reports are the same -/
  report : ∀ qs, g.report qs = h.report qs

theorem check_congr (hgh : ∀ r, g.canGrant r = h.canGrant r) (q : Request) :
    g.check q = h.check q := by
  rw [check_eq_head?, check_eq_head?, missing_congr hgh]

theorem finding?_congr (hgh : ∀ r, g.canGrant r = h.canGrant r) (hmarker : g.marker = h.marker)
    (q : Request) : g.finding? q = h.finding? q := by
  unfold finding? suggest
  rw [check_congr hgh, missing_congr hgh, hmarker]

/-- All answers are determined by the rules that can be granted and the marker. -/
theorem SameAnswers.of_canGrant (hgh : ∀ r, g.canGrant r = h.canGrant r)
    (hmarker : g.marker = h.marker) : SameAnswers g h where
  canGrant := hgh
  check := check_congr hgh
  validate q := by
    unfold Grantor.validate
    rw [check_congr hgh]
  missing := missing_congr hgh
  checkAll qs := by
    unfold Grantor.checkAll
    rw [funext (check_congr hgh)]
  report qs := by
    unfold Grantor.report
    rw [funext (finding?_congr hgh hmarker)]

theorem SameAnswers.of_dominates (hhg : h.Dominates g) (hgh : g.Dominates h)
    (hmarker : g.marker = h.marker) : SameAnswers g h := by
  apply SameAnswers.of_canGrant _ hmarker
  intro r
  rw [Bool.eq_iff_iff]
  exact ⟨canGrant_of_dominates hhg, canGrant_of_dominates hgh⟩

/-! ### Three ways to hold the same -/

theorem dominates_of_subset (hsub : ∀ r ∈ g.granted, r ∈ h.granted) : h.Dominates g :=
  fun r hr => canGrant_of_mem (hsub r hr)

/-- Order and repetitions of the held rules do not matter. -/
theorem SameAnswers.of_mem_iff {G H : List Rule} (hmem : ∀ r, r ∈ G ↔ r ∈ H) (marker : String) :
    SameAnswers ⟨G, marker⟩ ⟨H, marker⟩ :=
  .of_dominates (dominates_of_subset fun r hr => (hmem r).mp hr)
    (dominates_of_subset fun r hr => (hmem r).mpr hr) rfl

/-- A rule that another held rule covers can be dropped. -/
theorem SameAnswers.of_covered {before after : List Rule} {r held : Rule}
    (hheld : held ∈ before ++ after) (hcov : held.covers r = true) (marker : String) :
    SameAnswers ⟨before ++ r :: after, marker⟩ ⟨before ++ after, marker⟩ := by
  refine .of_dominates ?_ (dominates_of_subset ?_) rfl
  · intro p hp
    have hcases : p = r ∨ p ∈ before ++ after := by
      simpa [or_left_comm] using hp
    rcases hcases with rfl | hrest
    · exact canGrant_iff.mpr ⟨held, hheld, hcov⟩
    · exact canGrant_of_mem hrest
  · intro p hp
    rcases List.mem_append.mp hp with hbefore | hafter
    · exact List.mem_append_left _ hbefore
    · exact List.mem_append_right _ (List.mem_cons_of_mem r hafter)

/-! ## Main theorem -/

/-- **Delegation cannot widen permissions.** A grantor that can grant all
    rules of another one grants whatever that one grants, misses a
    subsequence of its missing rules, and fails a subsequence of the
    positions in any list of requests. Grantors that can grant the rules of
    each other cannot be told apart; in particular the order and the
    repetitions of the held rules do not matter, nor does a rule that
    another held rule covers. -/
theorem delegation_cannot_widen :
    (∀ g h : Grantor, h.Dominates g →
      (∀ r, g.canGrant r = true → h.canGrant r = true)
      ∧ (∀ q, (h.missing q).Sublist (g.missing q))
      ∧ ∀ qs, (h.failing qs).Sublist (g.failing qs))
    ∧ (∀ (g : Grantor) qs, (g.report qs).findings.map Finding.role
        = (g.failing qs).map fun p => p.1.name)
    ∧ (∀ g h : Grantor, h.Dominates g → g.Dominates h → g.marker = h.marker → SameAnswers g h)
    ∧ (∀ (G H : List Rule) marker, (∀ r, r ∈ G ↔ r ∈ H) →
        SameAnswers ⟨G, marker⟩ ⟨H, marker⟩)
    ∧ ∀ (before after : List Rule) (r held : Rule) marker, held ∈ before ++ after →
        held.covers r = true →
        SameAnswers ⟨before ++ r :: after, marker⟩ ⟨before ++ after, marker⟩ := by
  refine ⟨?_, ?_, ?_, ?_, ?_⟩
  · intro g h hdom
    exact ⟨fun r => canGrant_of_dominates hdom, missing_sublist_of_dominates hdom,
      failing_sublist_of_dominates hdom⟩
  · exact report_roles_eq
  · intro g h hhg hgh hmarker
    exact .of_dominates hhg hgh hmarker
  · intro G H marker hmem
    exact .of_mem_iff hmem marker
  · intro before after r held marker hheld hcov
    exact .of_covered hheld hcov marker

/-- The theorem at a wildcard that stands for all names, and at a held rule
    without verbs. -/
theorem delegation_cannot_widen_at_names :
    let g : Grantor := { granted := [⟨["apps"], ["deployments"], [], ["web"]⟩,
      ⟨[""], ["*", "pods"], ["get"], []⟩] }
    let h : Grantor := { granted := [⟨["", "apps"], ["*"], ["get"], ["*"]⟩] }
    h.Dominates g ∧ (∀ q, (h.missing q).Sublist (g.missing q))
      ∧ ∀ qs, (h.failing qs).Sublist (g.failing qs) := by
  intro g h
  have hdom : h.Dominates g := by
    unfold Dominates
    decide
  exact ⟨hdom, (delegation_cannot_widen.1 g h hdom).2⟩

end Grantor

end RoleGuard

import Mathlib.Data.Fintype.EquivFin
import RoleGuard.Proofs.Coverage

/-! # Coverage Is Containment

    Coverage looks at lists, accesses at what the lists mean. On one axis
    the two agree without exception: an axis that is not covered always has
    a value that tells it from the covering one,

    * the listed value that is not held;
    * a value that nobody lists, when the wildcard is asked for and not held;
    * the access without a name, when all instances are asked for.

    A rule is the product of its axes, so for whole rules the agreement
    needs that no axis is void: a rule without verbs allows nothing and is
    contained everywhere, whatever its groups are.
-/

namespace RoleGuard

variable {a b : List String}

/-! ## One axis of values -/

/-- Some value is on no list: texts never run out. -/
theorem exists_fresh (axis : List String) : ∃ v, v ∉ axis := by
  obtain ⟨v, hv⟩ := Infinite.exists_notMem_finset axis.toFinset
  exact ⟨v, fun hmem => hv (List.mem_toFinset.mpr hmem)⟩

/-- Without the wildcard an axis admits what it lists. -/
theorem admits_iff_mem (hw : wildcard ∉ a) {v : String} : admits a v ↔ v ∈ a := by
  unfold admits
  simp [hw]

/-- An axis that is not covered admits a value that the other one does not. -/
theorem exists_admits_of_not_coversValues (h : coversValues a b = false) :
    ∃ v, admits b v ∧ ¬ admits a v := by
  have hnot : ¬ (wildcard ∈ a ∨ ∀ v ∈ b, v ∈ a) := by
    rw [← coversValues_iff, h]
    exact Bool.false_ne_true
  obtain ⟨hwa, hsub⟩ := not_or.mp hnot
  by_cases hwb : wildcard ∈ b
  · -- everything is asked for, so whatever is not held will do
    obtain ⟨v, hv⟩ := exists_fresh a
    refine ⟨v, Or.inr hwb, ?_⟩
    rwa [admits_iff_mem hwa]
  · obtain ⟨v, hv⟩ := not_forall.mp hsub
    obtain ⟨hvb, hva⟩ := Classical.not_imp.mp hv
    refine ⟨v, Or.inl hvb, ?_⟩
    rwa [admits_iff_mem hwa]

/-- **One axis is covered exactly when it is contained.** -/
theorem coversValues_iff_admits :
    coversValues a b = true ↔ ∀ v, admits b v → admits a v := by
  constructor
  · intro h v hv
    exact admits_of_coversValues h hv
  · intro hall
    by_contra hcov
    obtain ⟨v, hvb, hva⟩ := exists_admits_of_not_coversValues (Bool.eq_false_iff.mpr hcov)
    exact hva (hall v hvb)

/-- An axis admits something exactly when it lists something. -/
theorem exists_admits_iff : (∃ v, admits a v) ↔ a ≠ [] := by
  constructor
  · rintro ⟨v, hmem | hw⟩
    · exact List.ne_nil_of_mem hmem
    · exact List.ne_nil_of_mem hw
  · intro ha
    obtain ⟨v, hv⟩ := List.exists_mem_of_ne_nil a ha
    exact ⟨v, Or.inl hv⟩

/-! ## Instance names -/

/-- Names that are not covered admit an access that the other ones do not:
    to the collection as a whole, or to one instance. -/
theorem exists_admitsName_of_not_coversNames (h : coversNames a b = false) :
    ∃ name, admitsName b name ∧ ¬ admitsName a name := by
  have hnot : ¬ (a = [] ∨ wildcard ∈ a ∨ (b ≠ [] ∧ ∀ v ∈ b, v ∈ a)) := by
    rw [← coversNames_iff, h]
    exact Bool.false_ne_true
  obtain ⟨ha, hrest⟩ := not_or.mp hnot
  obtain ⟨hwa, hsub⟩ := not_or.mp hrest
  by_cases hopen : b = [] ∨ wildcard ∈ b
  · refine ⟨none, ?_, ?_⟩
    · rcases hopen with hb | hwb
      · exact Or.inl hb
      · exact Or.inr (Or.inl hwb)
    · rintro (ha' | hwa' | ⟨n, hn, -⟩)
      · exact ha ha'
      · exact hwa hwa'
      · cases hn
  · have hb : b ≠ [] := fun hb => hopen (Or.inl hb)
    obtain ⟨n, hn⟩ := not_forall.mp fun hall => hsub ⟨hb, hall⟩
    obtain ⟨hnb, hna⟩ := Classical.not_imp.mp hn
    refine ⟨some n, Or.inr (Or.inr ⟨n, rfl, hnb⟩), ?_⟩
    rintro (ha' | hwa' | ⟨m, hm, hma⟩)
    · exact ha ha'
    · exact hwa hwa'
    · obtain rfl : n = m := Option.some.inj hm
      exact hna hma

/-- **Names are covered exactly when they are contained.** -/
theorem coversNames_iff_admitsName :
    coversNames a b = true ↔ ∀ name, admitsName b name → admitsName a name := by
  constructor
  · intro h name hname
    exact admitsName_of_coversNames h hname
  · intro hall
    by_contra hcov
    obtain ⟨name, hb, ha⟩ := exists_admitsName_of_not_coversNames (Bool.eq_false_iff.mpr hcov)
    exact ha (hall name hb)

/-- Names admit some access, whatever they are. -/
theorem exists_admitsName (names : List String) : ∃ name, admitsName names name := by
  cases names with
  | nil => exact ⟨none, Or.inl rfl⟩
  | cons n ns => exact ⟨some n, Or.inr (Or.inr ⟨n, rfl, List.mem_cons_self⟩)⟩

/-! ## Whole rules -/

namespace Rule

variable {p q : Rule}

/-- What `q` allows, `p` allows. -/
def Contains (p q : Rule) : Prop :=
  ∀ a : Access, q.allows a → p.allows a

/-- A rule without void axes allows some access. -/
theorem AsksOnEachAxis.exists_allows (h : q.AsksOnEachAxis) : ∃ a, q.allows a := by
  obtain ⟨group, hgroup⟩ := exists_admits_iff.mpr h.apiGroups
  obtain ⟨resource, hresource⟩ := exists_admits_iff.mpr h.resources
  obtain ⟨verb, hverb⟩ := exists_admits_iff.mpr h.verbs
  obtain ⟨name, hname⟩ := exists_admitsName q.resourceNames
  exact ⟨⟨group, resource, verb, name⟩, hgroup, hresource, hverb, hname⟩

/-- **Completeness of coverage**: a rule without void axes is covered by
    every rule that contains it. -/
theorem covers_of_contains (hq : q.AsksOnEachAxis) (h : p.Contains q) : p.covers q = true := by
  obtain ⟨access, hgroup, hresource, hverb, hname⟩ := hq.exists_allows
  -- one coordinate of the access moves along its axis, the others stay where they are
  refine covers_iff.mpr ⟨?_, ?_, ?_, ?_⟩
  · rw [coversValues_iff_admits]
    intro v hv
    exact (h { access with apiGroup := v } ⟨hv, hresource, hverb, hname⟩).1
  · rw [coversValues_iff_admits]
    intro v hv
    exact (h { access with resource := v } ⟨hgroup, hv, hverb, hname⟩).2.1
  · rw [coversValues_iff_admits]
    intro v hv
    exact (h { access with verb := v } ⟨hgroup, hresource, hv, hname⟩).2.2.1
  · rw [coversNames_iff_admitsName]
    intro name hname'
    exact (h { access with name } ⟨hgroup, hresource, hverb, hname'⟩).2.2.2

theorem covers_iff_contains (hq : q.AsksOnEachAxis) : p.covers q = true ↔ p.Contains q :=
  ⟨fun h _ ha => allows_of_covers h ha, covers_of_contains hq⟩

/-- A refused rule without void axes has an access that the other rule does not allow. -/
theorem exists_access_of_not_covers (hq : q.AsksOnEachAxis) (h : p.covers q = false) :
    ∃ a : Access, q.allows a ∧ ¬ p.allows a := by
  by_contra hnone
  have hcontains : p.Contains q := by
    intro a ha
    by_contra hpa
    exact hnone ⟨a, ha, hpa⟩
  rw [covers_of_contains hq hcontains] at h
  exact Bool.false_ne_true h.symm

/-! ## Main theorem -/

/-- **Coverage decides containment.** A rule that asks for something on each
    axis is covered exactly when each access that it allows is allowed by
    the covering rule; where it is not covered, some access tells why. -/
theorem coverage_decides_containment (p q : Rule) (hq : q.AsksOnEachAxis) :
    (p.covers q = true ↔ ∀ a : Access, q.allows a → p.allows a)
    ∧ (p.covers q = false → ∃ a : Access, q.allows a ∧ ¬ p.allows a) := by
  refine ⟨covers_iff_contains hq, ?_⟩
  intro h
  exact exists_access_of_not_covers hq h

/-- The theorem at a wildcard that is asked for and not held, on the axis of groups, where a
    list of all groups in use does not make up for it. -/
theorem coverage_decides_containment_at_wildcard :
    let p : Rule := ⟨["", "apps"], ["*"], ["get", "list"], ["*", "web"]⟩
    let q : Rule := ⟨["apps", "*"], ["pods"], ["get"], []⟩
    q.AsksOnEachAxis ∧ p.covers q = false ∧ ∃ a : Access, q.allows a ∧ ¬ p.allows a := by
  intro p q
  have hq : q.AsksOnEachAxis := ⟨by decide, by decide, by decide⟩
  have hcov : p.covers q = false := by decide
  exact ⟨hq, hcov, (coverage_decides_containment p q hq).2 hcov⟩

end Rule

end RoleGuard

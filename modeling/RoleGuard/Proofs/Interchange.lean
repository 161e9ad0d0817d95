import RoleGuard.Proofs.Coverage

/-! # Interchangeable Rules

    Coverage is reflexive and transitive, but different rules may cover each
    other. They do so exactly when they differ in nothing that matters:

    * on an axis of values, the wildcard swallows what else is listed, and
      without it the listed values count, not their order or number;
    * among names, no name at all means the same as the wildcard.

    Rules that cover each other are interchangeable: no question about
    coverage, asked of them or about them, tells them apart.
-/

namespace RoleGuard

variable {a b : List String}

/-! ## One axis of values -/

/-- The lists hold the same values, in whatever order and however often. -/
def SameValues (a b : List String) : Prop :=
  ∀ v, v ∈ a ↔ v ∈ b

/-- The axes reach the same: everything, or the values that both list. -/
def SameReach (a b : List String) : Prop :=
  (wildcard ∈ a ∧ wildcard ∈ b) ∨ SameValues a b

theorem sameValues_iff : SameValues a b ↔ (∀ v ∈ a, v ∈ b) ∧ ∀ v ∈ b, v ∈ a :=
  ⟨fun h => ⟨fun v hv => (h v).mp hv, fun v hv => (h v).mpr hv⟩, fun h v => ⟨h.1 v, h.2 v⟩⟩

instance (a b : List String) : Decidable (SameValues a b) :=
  decidable_of_iff _ sameValues_iff.symm

theorem SameValues.sameReach (h : SameValues a b) : SameReach a b :=
  Or.inr h

theorem SameValues.eq_nil_iff (h : SameValues a b) : a = [] ↔ b = [] := by
  simp only [List.eq_nil_iff_forall_not_mem, h _]

/-- **Mutual coverage on one axis.** -/
theorem coversValues_antisymm_iff :
    coversValues a b = true ∧ coversValues b a = true ↔ SameReach a b := by
  rw [coversValues_iff, coversValues_iff]
  constructor
  · rintro ⟨hab, hba⟩
    by_cases hw : wildcard ∈ a
    · -- the wildcard of one axis is asked of the other
      have hwb : wildcard ∈ b := by
        rcases hba with hwb | hsub
        · exact hwb
        · exact hsub wildcard hw
      exact Or.inl ⟨hw, hwb⟩
    · have hba' : ∀ v ∈ b, v ∈ a := hab.resolve_left hw
      have hwb : wildcard ∉ b := fun hwb => hw (hba' wildcard hwb)
      have hab' : ∀ v ∈ a, v ∈ b := hba.resolve_left hwb
      exact Or.inr (sameValues_iff.mpr ⟨hab', hba'⟩)
  · rintro (⟨hwa, hwb⟩ | hsame)
    · exact ⟨Or.inl hwa, Or.inl hwb⟩
    · obtain ⟨hab, hba⟩ := sameValues_iff.mp hsame
      exact ⟨Or.inr hba, Or.inr hab⟩

/-! ## Instance names -/

/-- The names leave no instance out. -/
def Unrestricted (names : List String) : Prop :=
  names = [] ∨ wildcard ∈ names

/-- The names reach the same: all instances, or those that both list. -/
def SameNames (a b : List String) : Prop :=
  (Unrestricted a ∧ Unrestricted b) ∨ (¬ Unrestricted a ∧ ¬ Unrestricted b ∧ SameValues a b)

theorem SameValues.unrestricted_iff (h : SameValues a b) : Unrestricted a ↔ Unrestricted b := by
  unfold Unrestricted
  rw [h.eq_nil_iff, h wildcard]

theorem SameValues.sameNames (h : SameValues a b) : SameNames a b := by
  by_cases ha : Unrestricted a
  · exact Or.inl ⟨ha, h.unrestricted_iff.mp ha⟩
  · exact Or.inr ⟨ha, fun hb => ha (h.unrestricted_iff.mpr hb), h⟩

theorem coversNames_of_unrestricted (ha : Unrestricted a) : coversNames a b = true := by
  rw [coversNames_iff]
  rcases ha with hnil | hw
  · exact Or.inl hnil
  · exact Or.inr (Or.inl hw)

/-- Names that leave none out are covered only by such names. -/
theorem unrestricted_of_coversNames (h : coversNames a b = true) (hb : Unrestricted b) :
    Unrestricted a := by
  rcases coversNames_iff.mp h with hnil | hwa | ⟨hne, hsub⟩
  · exact Or.inl hnil
  · exact Or.inr hwa
  · rcases hb with hnil | hwb
    · exact absurd hnil hne
    · exact Or.inr (hsub wildcard hwb)

/-- Names that leave some out cover what they list. -/
theorem mem_of_coversNames (h : coversNames a b = true) (ha : ¬ Unrestricted a) :
    ∀ v ∈ b, v ∈ a := by
  rcases coversNames_iff.mp h with hnil | hwa | ⟨-, hsub⟩
  · exact absurd (Or.inl hnil) ha
  · exact absurd (Or.inr hwa) ha
  · exact hsub

/-- **Mutual coverage among names.** -/
theorem coversNames_antisymm_iff :
    coversNames a b = true ∧ coversNames b a = true ↔ SameNames a b := by
  constructor
  · rintro ⟨hab, hba⟩
    by_cases ha : Unrestricted a
    · exact Or.inl ⟨ha, unrestricted_of_coversNames hba ha⟩
    · have hb : ¬ Unrestricted b := fun hb => ha (unrestricted_of_coversNames hab hb)
      have hsame : SameValues a b :=
        sameValues_iff.mpr ⟨mem_of_coversNames hba hb, mem_of_coversNames hab ha⟩
      exact Or.inr ⟨ha, hb, hsame⟩
  · rintro (⟨ha, hb⟩ | ⟨ha, hb, hsame⟩)
    · exact ⟨coversNames_of_unrestricted ha, coversNames_of_unrestricted hb⟩
    · have hna : a ≠ [] := fun hnil => ha (Or.inl hnil)
      have hnb : b ≠ [] := fun hnil => hb (Or.inl hnil)
      obtain ⟨hab, hba⟩ := sameValues_iff.mp hsame
      rw [coversNames_iff, coversNames_iff]
      exact ⟨Or.inr (Or.inr ⟨hnb, hba⟩), Or.inr (Or.inr ⟨hna, hab⟩)⟩

/-! ## Whole rules -/

namespace Rule

variable {p p' q q' : Rule}

/-- The rules reach the same on each axis. -/
structure Alike (p q : Rule) : Prop where
  /-- API groups -/
  apiGroups : SameReach p.apiGroups q.apiGroups
  /-- resource types -/
  resources : SameReach p.resources q.resources
  /-- actions -/
  verbs : SameReach p.verbs q.verbs
  /-- named instances -/
  resourceNames : SameNames p.resourceNames q.resourceNames

/-- The rules list the same values on each axis, in whatever order and however often. -/
structure Rearranged (p q : Rule) : Prop where
  /-- API groups -/
  apiGroups : SameValues p.apiGroups q.apiGroups
  /-- resource types -/
  resources : SameValues p.resources q.resources
  /-- actions -/
  verbs : SameValues p.verbs q.verbs
  /-- named instances -/
  resourceNames : SameValues p.resourceNames q.resourceNames

theorem covers_antisymm_iff : p.covers q = true ∧ q.covers p = true ↔ p.Alike q := by
  constructor
  · rintro ⟨hpq, hqp⟩
    obtain ⟨hgroups, hresources, hverbs, hnames⟩ := covers_iff.mp hpq
    obtain ⟨hgroups', hresources', hverbs', hnames'⟩ := covers_iff.mp hqp
    exact ⟨coversValues_antisymm_iff.mp ⟨hgroups, hgroups'⟩,
      coversValues_antisymm_iff.mp ⟨hresources, hresources'⟩,
      coversValues_antisymm_iff.mp ⟨hverbs, hverbs'⟩,
      coversNames_antisymm_iff.mp ⟨hnames, hnames'⟩⟩
  · intro h
    obtain ⟨hgroups, hgroups'⟩ := coversValues_antisymm_iff.mpr h.apiGroups
    obtain ⟨hresources, hresources'⟩ := coversValues_antisymm_iff.mpr h.resources
    obtain ⟨hverbs, hverbs'⟩ := coversValues_antisymm_iff.mpr h.verbs
    obtain ⟨hnames, hnames'⟩ := coversNames_antisymm_iff.mpr h.resourceNames
    exact ⟨covers_iff.mpr ⟨hgroups, hresources, hverbs, hnames⟩,
      covers_iff.mpr ⟨hgroups', hresources', hverbs', hnames'⟩⟩

/-- What holds of a rule holds of one that is alike, on both sides of the question. -/
theorem covers_congr (hp : p.Alike p') (hq : q.Alike q') : p.covers q = p'.covers q' := by
  obtain ⟨hpp', hp'p⟩ := covers_antisymm_iff.mpr hp
  obtain ⟨hqq', hq'q⟩ := covers_antisymm_iff.mpr hq
  rw [Bool.eq_iff_iff]
  constructor
  · intro h
    exact covers_trans (covers_trans hp'p h) hqq'
  · intro h
    exact covers_trans (covers_trans hpp' h) hq'q

theorem alike_refl (p : Rule) : p.Alike p :=
  covers_antisymm_iff.mp ⟨p.covers_refl, p.covers_refl⟩

/-- Order and repetitions do not matter. -/
theorem Rearranged.alike (h : p.Rearranged q) : p.Alike q :=
  ⟨h.apiGroups.sameReach, h.resources.sameReach, h.verbs.sameReach, h.resourceNames.sameNames⟩

/-- No names and the wildcard alone mean the same. -/
theorem alike_wildcard_names (p : Rule) :
    { p with resourceNames := [] }.Alike { p with resourceNames := [wildcard] } :=
  { p.alike_refl with resourceNames := Or.inl ⟨Or.inl rfl, Or.inr (List.mem_singleton.mpr rfl)⟩ }

/-! ## Main theorem -/

/-- **Coverage is a preorder, and its kernel is known.** Each rule covers
    itself; a chain of coverage covers from end to end; rules cover each
    other exactly when they reach the same on each axis. So rules that reach
    the same give the same answers: in particular order and repetitions of
    values do not matter, nor whether all instances are meant by no name or
    by the wildcard. -/
theorem coverage_is_preorder :
    (∀ p : Rule, p.covers p = true)
    ∧ (∀ p q r : Rule, p.covers q = true → q.covers r = true → p.covers r = true)
    ∧ (∀ p q : Rule, p.covers q = true ∧ q.covers p = true ↔ p.Alike q)
    ∧ (∀ p p' q q' : Rule, p.Alike p' → q.Alike q' → p.covers q = p'.covers q')
    ∧ (∀ p p' q q' : Rule, p.Rearranged p' → q.Rearranged q' → p.covers q = p'.covers q')
    ∧ ∀ p q : Rule,
      { p with resourceNames := [] }.covers q = { p with resourceNames := [wildcard] }.covers q
      ∧ p.covers { q with resourceNames := [] }
        = p.covers { q with resourceNames := [wildcard] } := by
  refine ⟨covers_refl, ?_, ?_, ?_, ?_, ?_⟩
  · intro p q r hpq hqr
    exact covers_trans hpq hqr
  · intro p q
    exact covers_antisymm_iff
  · intro p p' q q' hp hq
    exact covers_congr hp hq
  · intro p p' q q' hp hq
    exact covers_congr hp.alike hq.alike
  · intro p q
    exact ⟨covers_congr p.alike_wildcard_names q.alike_refl,
      covers_congr p.alike_refl q.alike_wildcard_names⟩

/-- The theorem at a chain that passes through a void axis and from no names to the wildcard,
    and at its first rule with the actions in another order. -/
theorem coverage_is_preorder_at_names :
    let p : Rule := ⟨["*"], ["pods"], ["get", "list"], []⟩
    let p' : Rule := ⟨["*"], ["pods", "pods"], ["list", "get", "list"], []⟩
    let q : Rule := ⟨["", "apps"], ["pods", "pods"], ["list"], ["*", "web"]⟩
    let r : Rule := ⟨["apps"], [], [], []⟩
    p.covers q = true ∧ q.covers r = true ∧ p.covers r = true
      ∧ p.Rearranged p' ∧ p'.covers r = true := by
  intro p p' q r
  have hpq : p.covers q = true := by decide
  have hqr : q.covers r = true := by decide
  have hpr : p.covers r = true := coverage_is_preorder.2.1 p q r hpq hqr
  have hp : p.Rearranged p' := ⟨by decide, by decide, by decide, by decide⟩
  have hr : r.Rearranged r := ⟨by decide, by decide, by decide, by decide⟩
  refine ⟨hpq, hqr, hpr, hp, ?_⟩
  rw [← coverage_is_preorder.2.2.2.2.1 p p' r r hp hr]
  exact hpr

end Rule

end RoleGuard

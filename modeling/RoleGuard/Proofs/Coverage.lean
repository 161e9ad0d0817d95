import RoleGuard.Access
import RoleGuard.Coverage

/-! # The Order of Coverage

    Coverage compares two rules axis by axis, so each fact about rules is
    first a fact about one axis. Two facts carry all that is proved of
    grantors:

    * **Soundness**: what a covered rule allows, the covering rule allows.
    * **Order**: coverage is reflexive and transitive, also through a rule
      that has empty axes, lists the wildcard, or is restricted to named
      instances on one side only.
-/

namespace RoleGuard

variable {a b c : List String}

/-! ## One axis of values -/

theorem coversValues_iff :
    coversValues a b = true ↔ wildcard ∈ a ∨ ∀ v ∈ b, v ∈ a := by
  unfold coversValues
  simp

/-- However an axis is covered, a wildcard that is asked for is held. -/
theorem wildcard_mem_of_coversValues (h : coversValues a b = true) (hw : wildcard ∈ b) :
    wildcard ∈ a := by
  rcases coversValues_iff.mp h with hheld | hall
  · exact hheld
  · exact hall wildcard hw

theorem coversValues_refl (a : List String) : coversValues a a = true :=
  coversValues_iff.mpr (Or.inr fun _ hv => hv)

theorem coversValues_trans (hab : coversValues a b = true) (hbc : coversValues b c = true) :
    coversValues a c = true := by
  rw [coversValues_iff]
  rcases coversValues_iff.mp hab with hwa | hsub
  · exact Or.inl hwa
  · rcases coversValues_iff.mp hbc with hwb | hsub'
    · -- the wildcard of the middle axis has to be held as well
      exact Or.inl (hsub wildcard hwb)
    · exact Or.inr fun v hv => hsub v (hsub' v hv)

/-- Soundness on one axis. -/
theorem admits_of_coversValues (h : coversValues a b = true) {v : String}
    (hv : admits b v) : admits a v := by
  rcases hv with hmem | hw
  · rcases coversValues_iff.mp h with hwa | hsub
    · exact Or.inr hwa
    · exact Or.inl (hsub v hmem)
  · exact Or.inr (wildcard_mem_of_coversValues h hw)

/-! ## Instance names

    An empty list is the largest one here: it admits every name. -/

theorem coversNames_iff :
    coversNames a b = true ↔ a = [] ∨ wildcard ∈ a ∨ (b ≠ [] ∧ ∀ v ∈ b, v ∈ a) := by
  unfold coversNames
  cases a with
  | nil => simp
  | cons x xs =>
    cases b with
    | nil => simp
    | cons y ys =>
      have hvalues := coversValues_iff (a := x :: xs) (b := y :: ys)
      simpa using hvalues

theorem coversNames_refl (a : List String) : coversNames a a = true := by
  rw [coversNames_iff]
  by_cases ha : a = []
  · exact Or.inl ha
  · exact Or.inr (Or.inr ⟨ha, fun _ hv => hv⟩)

theorem coversNames_trans (hab : coversNames a b = true) (hbc : coversNames b c = true) :
    coversNames a c = true := by
  rw [coversNames_iff] at hab hbc ⊢
  rcases hab with ha | hwa | ⟨hb, hsub⟩
  · exact Or.inl ha
  · exact Or.inr (Or.inl hwa)
  · rcases hbc with hb' | hwb | ⟨hc, hsub'⟩
    · exact absurd hb' hb
    · exact Or.inr (Or.inl (hsub wildcard hwb))
    · exact Or.inr (Or.inr ⟨hc, fun v hv => hsub v (hsub' v hv)⟩)

/-- Soundness for instance names. -/
theorem admitsName_of_coversNames (h : coversNames a b = true) {name : Option String}
    (hname : admitsName b name) : admitsName a name := by
  rcases coversNames_iff.mp h with ha | hwa | ⟨hb, hsub⟩
  · exact Or.inl ha
  · exact Or.inr (Or.inl hwa)
  · rcases hname with hb' | hwb | ⟨n, hn, hmem⟩
    · exact absurd hb' hb
    · exact Or.inr (Or.inl (hsub wildcard hwb))
    · exact Or.inr (Or.inr ⟨n, hn, hsub n hmem⟩)

/-! ## Whole rules -/

namespace Rule

variable {p q r : Rule}

theorem covers_iff :
    p.covers q = true ↔
      coversValues p.apiGroups q.apiGroups = true ∧ coversValues p.resources q.resources = true
        ∧ coversValues p.verbs q.verbs = true
        ∧ coversNames p.resourceNames q.resourceNames = true := by
  unfold covers
  simp only [Bool.and_eq_true, and_assoc]

theorem covers_refl (r : Rule) : r.covers r = true :=
  covers_iff.mpr ⟨coversValues_refl _, coversValues_refl _, coversValues_refl _,
    coversNames_refl _⟩

theorem covers_trans (hpq : p.covers q = true) (hqr : q.covers r = true) :
    p.covers r = true := by
  obtain ⟨hgroups, hresources, hverbs, hnames⟩ := covers_iff.mp hpq
  obtain ⟨hgroups', hresources', hverbs', hnames'⟩ := covers_iff.mp hqr
  exact covers_iff.mpr ⟨coversValues_trans hgroups hgroups',
    coversValues_trans hresources hresources', coversValues_trans hverbs hverbs',
    coversNames_trans hnames hnames'⟩

/-- **Soundness of coverage**: the covering rule allows what the covered rule allows. -/
theorem allows_of_covers (h : p.covers q = true) {access : Access} (ha : q.allows access) :
    p.allows access := by
  obtain ⟨hgroups, hresources, hverbs, hnames⟩ := covers_iff.mp h
  obtain ⟨hgroup, hresource, hverb, hname⟩ := ha
  exact ⟨admits_of_coversValues hgroups hgroup, admits_of_coversValues hresources hresource,
    admits_of_coversValues hverbs hverb, admitsName_of_coversNames hnames hname⟩

end Rule

end RoleGuard

import Mathlib.Data.List.Forall2
import RoleGuard.Manifest

/-! # Steps That May Be Refused

    Loading goes step by step, and the first refusal ends it. The laws here
    say when a sequence of steps succeeds and which refusal it ends in: for
    two steps, for a step on every item of a list, and for steps that leave
    notes.
-/

namespace RoleGuard

variable {ε ε' α β : Type}

/-! ## Two steps -/

theorem bind_eq_ok {x : Except ε α} {f : α → Except ε β} {b : β} :
    (x >>= f) = .ok b ↔ ∃ a, x = .ok a ∧ f a = .ok b := by
  cases x <;> simp [bind, Except.bind]

theorem bind_eq_error {x : Except ε α} {f : α → Except ε β} {e : ε} :
    (x >>= f) = .error e ↔ x = .error e ∨ ∃ a, x = .ok a ∧ f a = .error e := by
  cases x <;> simp [bind, Except.bind]

theorem map_eq_ok {x : Except ε α} {f : α → β} {b : β} :
    x.map f = .ok b ↔ ∃ a, x = .ok a ∧ f a = b := by
  cases x <;> simp [Except.map]

theorem map_eq_error {x : Except ε α} {f : α → β} {e : ε} :
    x.map f = .error e ↔ x = .error e := by
  cases x <;> simp [Except.map]

theorem mapError_eq_ok {x : Except ε α} {f : ε → ε'} {a : α} :
    x.mapError f = .ok a ↔ x = .ok a := by
  cases x <;> simp [Except.mapError]

theorem mapError_eq_error {x : Except ε α} {f : ε → ε'} {e : ε'} :
    x.mapError f = .error e ↔ ∃ e', x = .error e' ∧ f e' = e := by
  cases x <;> simp [Except.mapError]

/-! ## A step on every item -/

/-- A list can be paired off just when every item has a partner. -/
theorem exists_forall₂_iff {P : α → β → Prop} {xs : List α} :
    (∃ ys, List.Forall₂ P xs ys) ↔ ∀ x ∈ xs, ∃ y, P x y := by
  induction xs with
  | nil => exact iff_of_true ⟨[], .nil⟩ nofun
  | cons x xs ih =>
    rw [List.forall_mem_cons, ← ih]
    constructor
    · rintro ⟨_, h⟩
      cases h with
      | cons hy hys => exact ⟨⟨_, hy⟩, ⟨_, hys⟩⟩
    · rintro ⟨⟨y, hy⟩, ⟨ys, hys⟩⟩
      exact ⟨y :: ys, .cons hy hys⟩

/-- One item has the property `stops`, and all items before it have `passes`. -/
def First (passes stops : α → Prop) (xs : List α) : Prop :=
  ∃ before x after, xs = before ++ x :: after ∧ (∀ b ∈ before, passes b) ∧ stops x

theorem First.exists_mem {passes stops : α → Prop} {xs : List α} (h : First passes stops xs) :
    ∃ x ∈ xs, stops x := by
  obtain ⟨before, x, after, rfl, _, hx⟩ := h
  exact ⟨x, by simp, hx⟩

/-- Where not all items have a property, one of them is the first without it. -/
theorem exists_first_not {P : α → Prop} {xs : List α} (h : ¬ ∀ x ∈ xs, P x) :
    First P (fun x => ¬ P x) xs := by
  induction xs with
  | nil => exact absurd nofun h
  | cons x xs ih =>
    by_cases hx : P x
    · obtain ⟨before, y, after, rfl, hbefore, hy⟩ :=
        ih fun hxs => h (List.forall_mem_cons.mpr ⟨hx, hxs⟩)
      exact ⟨x :: before, y, after, rfl, List.forall_mem_cons.mpr ⟨hx, hbefore⟩, hy⟩
    · exact ⟨[], x, xs, rfl, nofun, hx⟩

/-- Every item succeeds with its own result. -/
theorem mapM_eq_ok {f : α → Except ε β} {xs : List α} {ys : List β} :
    xs.mapM f = .ok ys ↔ List.Forall₂ (fun x y => f x = .ok y) xs ys := by
  induction xs generalizing ys with
  | nil =>
    rw [List.mapM_nil, List.forall₂_nil_left_iff]
    exact ⟨fun h => (Except.ok.inj h).symm, fun h => congrArg Except.ok h.symm⟩
  | cons x xs ih =>
    rw [List.mapM_cons, bind_eq_ok, List.forall₂_cons_left_iff]
    constructor
    · rintro ⟨y, hy, hrest⟩
      obtain ⟨ys', hys, hcons⟩ := bind_eq_ok.mp hrest
      exact ⟨y, ys', hy, ih.mp hys, (Except.ok.inj hcons).symm⟩
    · rintro ⟨y, ys', hy, hys, rfl⟩
      exact ⟨y, hy, bind_eq_ok.mpr ⟨ys', ih.mpr hys, rfl⟩⟩

/-- Items that succeed with the same result. -/
theorem mapM_of_forall_eq {f : α → Except ε β} {xs : List α} {y : β} (h : ∀ x ∈ xs, f x = .ok y) :
    xs.mapM f = .ok (xs.map fun _ => y) := by
  rw [mapM_eq_ok, List.forall₂_map_right_iff, List.forall₂_same]
  exact h

/-- The first item that is refused decides. -/
theorem mapM_eq_error {f : α → Except ε β} {xs : List α} {e : ε} :
    xs.mapM f = .error e ↔ First (fun x => ∃ y, f x = .ok y) (fun x => f x = .error e) xs := by
  induction xs with
  | nil =>
    rw [List.mapM_nil]
    constructor
    · intro h
      cases h
    · rintro ⟨before, x, after, h, _⟩
      cases before <;> cases h
  | cons x xs ih =>
    rw [List.mapM_cons, bind_eq_error]
    constructor
    · rintro (hx | ⟨y, hy, hrest⟩)
      · exact ⟨[], x, xs, rfl, nofun, hx⟩
      · rcases bind_eq_error.mp hrest with hxs | ⟨_, _, hpure⟩
        · obtain ⟨before, z, after, rfl, hbefore, hz⟩ := ih.mp hxs
          refine ⟨x :: before, z, after, rfl, ?_, hz⟩
          intro b hb
          rcases List.mem_cons.mp hb with rfl | hb
          · exact ⟨y, hy⟩
          · exact hbefore b hb
        · cases hpure
    · rintro ⟨before, z, after, hsplit, hbefore, hz⟩
      cases before with
      | nil =>
        obtain ⟨rfl, rfl⟩ := List.cons.inj hsplit
        exact Or.inl hz
      | cons b before =>
        obtain ⟨rfl, rfl⟩ := List.cons.inj hsplit
        obtain ⟨y, hy⟩ := hbefore x List.mem_cons_self
        refine Or.inr ⟨y, hy, bind_eq_error.mpr (Or.inl (ih.mpr ?_))⟩
        exact ⟨before, z, after, rfl, fun b hb => hbefore b (List.mem_cons_of_mem x hb), hz⟩

/-! ## Steps with notes -/

/-- Notes do not change what a sequence of steps ends in. -/
theorem Logged.andThen_snd (r : Logged (Except Refusal α)) (f : α → Logged (Except Refusal β)) :
    (r.andThen f).2 = r.2 >>= fun a => (f a).2 := by
  obtain ⟨notes, result⟩ := r
  cases result <;> rfl

namespace Logged

variable {step : α → Except Refusal (List Log.Record × List β)} {xs before rest after : List α}
  {parts : List (List Log.Record × List β)} {x : α} {r : Refusal}

theorem collect_cons_of_ok {p : List Log.Record × List β} (h : step x = .ok p) (xs : List α) :
    collect step (x :: xs)
      = (p.1 ++ (collect step xs).1, (collect step xs).2.map (p.2 ++ ·)) := by
  rw [collect, h]

/-- Steps that succeed leave their notes and items in front of those of the rest. -/
theorem collect_append (h : List.Forall₂ (fun x p => step x = .ok p) before parts)
    (rest : List α) :
    collect step (before ++ rest)
      = (parts.flatMap Prod.fst ++ (collect step rest).1,
          (collect step rest).2.map (parts.flatMap Prod.snd ++ ·)) := by
  induction h with
  | nil =>
    cases hrest : collect step rest with
    | mk notes result => cases result <;> simp [hrest, Except.map]
  | @cons x p before parts hx _ ih =>
    rw [List.cons_append, collect_cons_of_ok hx]
    simp only [ih, List.flatMap_cons, List.append_assoc]
    cases (collect step rest).2 <;> simp [Except.map]

/-- All steps succeed. -/
theorem collect_of_ok (h : List.Forall₂ (fun x p => step x = .ok p) xs parts) :
    collect step xs = (parts.flatMap Prod.fst, .ok (parts.flatMap Prod.snd)) := by
  have hall := collect_append h []
  rw [List.append_nil] at hall
  simpa [collect, Except.map] using hall

/-- One step is refused, and those before it succeed. -/
theorem collect_of_error (h : List.Forall₂ (fun x p => step x = .ok p) before parts)
    (hx : step x = .error r) (after : List α) :
    collect step (before ++ x :: after) = (parts.flatMap Prod.fst, .error r) := by
  have hstop : collect step (x :: after) = ([], .error r) := by
    rw [collect, hx]
  rw [collect_append h, hstop, List.append_nil]
  rfl

/-- Without their notes, the steps are a step on every item. -/
theorem collect_snd (step : α → Except Refusal (List Log.Record × List β)) (xs : List α) :
    (collect step xs).2 = (xs.mapM step).map (List.flatMap Prod.snd) := by
  cases hxs : xs.mapM step with
  | ok parts => rw [collect_of_ok (mapM_eq_ok.mp hxs)]; rfl
  | error r =>
    obtain ⟨before, x, after, rfl, hbefore, hx⟩ := mapM_eq_error.mp hxs
    obtain ⟨parts, hparts⟩ := exists_forall₂_iff.mpr hbefore
    rw [collect_of_error hparts hx]
    rfl

/-- Items whose steps only leave notes make no difference to what is collected. -/
theorem collect_filter_snd {p : α → Bool}
    (h : ∀ x, p x = false → ∃ notes, step x = .ok (notes, [])) (xs : List α) :
    (collect step (xs.filter p)).2 = (collect step xs).2 := by
  induction xs with
  | nil => rfl
  | cons x xs ih =>
    by_cases hx : p x = true
    · rw [List.filter_cons_of_pos hx, collect, collect]
      cases step x with
      | error r => rfl
      | ok q => simp only [ih]
    · obtain ⟨notes, hnotes⟩ := h x (Bool.eq_false_iff.mpr hx)
      rw [List.filter_cons_of_neg hx, collect_cons_of_ok hnotes, ih]
      cases (collect step xs).2 <;> rfl

/-- Steps that add one item each, and leave no notes, are a step on every item. -/
theorem collect_singles_snd {f : α → Except Refusal β}
    (h : ∀ x ∈ xs, step x = (f x).map fun y => ([], [y])) :
    (collect step xs).2 = xs.mapM f := by
  induction xs with
  | nil => rfl
  | cons x xs ih =>
    obtain ⟨hx, hxs⟩ := List.forall_mem_cons.mp h
    rw [List.mapM_cons, ← ih hxs]
    cases hy : f x with
    | error r =>
      rw [collect, hx, hy]
      rfl
    | ok y =>
      rw [hy] at hx
      rw [collect_cons_of_ok hx]
      cases (collect step xs).2 <;> rfl

end Logged

end RoleGuard

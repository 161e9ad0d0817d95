import RoleGuard.Rule.Reader
import RoleGuard.Report

/-! # Reading Back What Was Written

    A rule that was written as a mapping is read back as it was, although
    the mapping leaves out instance names when there are none. The readers
    of fields and of lists are treated first, for any kind of item.
-/

namespace RoleGuard

/-! ## Lists of items -/

namespace Schema

variable {α : Type} {read : List Step → Value → Checked α}

/-- Items that are read back one by one are read back as a list. -/
theorem itemsFrom_map {write : α → Value}
    (hread : ∀ location x, read location (write x) = .ok x)
    (location : List Step) (i : Nat) (xs : List α) :
    itemsFrom read location i (xs.map write) = .ok xs := by
  induction xs generalizing i with
  | nil => rfl
  | cons x xs ih =>
    rw [List.map_cons, itemsFrom, hread, ih]
    rfl

theorem items_map (mismatch : Mismatch) (write : α → Value)
    (hread : ∀ location x, read location (write x) = .ok x)
    (location : List Step) (xs : List α) :
    items mismatch read location (.list (xs.map write)) = .ok xs :=
  itemsFrom_map hread location 0 xs

theorem items_texts (mismatch : Mismatch) (location : List Step) (xs : List String) :
    items mismatch text location (.texts xs) = .ok xs :=
  items_map mismatch .text (fun _ _ => rfl) location xs

end Schema

/-! ## Rules -/

namespace Rule

variable {location : List Step} {names : List String} {entries : List (Value × Value)}

/-- The axis stands under its name, or it is empty and left out. -/
def Written (names : List String) (xs : List String) (entries : List (Value × Value)) : Prop :=
  (∃ name, Schema.spelling names entries = some (name, .texts xs))
    ∨ (xs = [] ∧ Schema.spelling names entries = none)

theorem readAxis_of_written {xs : List String} (h : Written names xs entries) :
    readAxis location names entries = .ok xs := by
  unfold readAxis Schema.optional
  rcases h with ⟨name, hname⟩ | ⟨rfl, hnone⟩
  · rw [hname]
    exact Schema.items_texts .tuple _ xs
  · rw [hnone]

/-- Instance names are the only axis that may be left out. -/
theorem toValue_written (r : Rule) :
    ∃ entries, r.toValue = .map entries
      ∧ Written ["apiGroups", "api_groups"] r.apiGroups entries
      ∧ Written ["resources"] r.resources entries
      ∧ Written ["verbs"] r.verbs entries
      ∧ Written ["resourceNames", "resource_names"] r.resourceNames entries := by
  refine ⟨_, rfl, .inl ⟨"apiGroups", ?_⟩, .inl ⟨"resources", ?_⟩, .inl ⟨"verbs", ?_⟩, ?_⟩
  · simp [Schema.spelling, Value.lookup, List.findSome?]
  · simp [Schema.spelling, Value.lookup, List.findSome?]
  · simp [Schema.spelling, Value.lookup, List.findSome?]
  · by_cases hnames : r.resourceNames = []
    · right
      simp [Schema.spelling, Value.lookup, List.findSome?, hnames]
    · left
      refine ⟨"resourceNames", ?_⟩
      simp [Schema.spelling, Value.lookup, List.findSome?, hnames]

/-- **A rule is read back from its mapping**, at any place of a document. -/
theorem readAt_toValue (location : List Step) (r : Rule) : readAt location r.toValue = .ok r := by
  obtain ⟨entries, hmap, hgroups, hresources, hverbs, hnames⟩ := r.toValue_written
  rw [hmap, readAt, readAxis_of_written hgroups, readAxis_of_written hresources,
    readAxis_of_written hverbs, readAxis_of_written hnames]
  rfl

theorem ofValue?_toValue (r : Rule) : ofValue? r.toValue = .ok r := by
  unfold ofValue?
  rw [readAt_toValue]
  rfl

/-- Rules that were written one by one are read back one by one. -/
theorem mapM_ofValue?_toValue (rules : List Rule) :
    (rules.map toValue).mapM ofValue? = .ok rules := by
  have hcomp : ofValue? ∘ toValue = fun r => (pure r : Except Rejection Rule) :=
    funext ofValue?_toValue
  rw [List.mapM_map, hcomp, List.mapM_pure, List.map_id']
  rfl

end Rule

end RoleGuard

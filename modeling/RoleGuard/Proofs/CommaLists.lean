import Mathlib.Data.List.DropRight
import RoleGuard.Proofs.Precedence

/-! # Comma Lists

    The verbs that the audit looks for can be given as a comma list. Its
    pieces are trimmed, and those that are empty then are left out:

    * **Splitting**: a comma ends a piece wherever it stands, so the items
      of two lists with a comma between them are the items of both.
    * **Trimming**: no blank is left at either end, and a text without
      blanks at its ends is left alone.
    * **Reading back**: an item by itself is read as itself. So a list of
      items is read back from its text, item by item.

    A list can be given this way exactly when each of its texts is an item,
    and then it keeps its order and its repetitions.
-/

namespace RoleGuard

namespace Text

variable {c : Char} {cs : List Char}

/-! ## Trimming -/

/-- No blank stands at either end. -/
structure IsTrimmed (cs : List Char) : Prop where
  /-- the first character -/
  first : ∀ c, cs.head? = some c → isBlank c = false
  /-- the last one -/
  last : ∀ c, cs.getLast? = some c → isBlank c = false

theorem not_isBlank_of_head? (h : (cs.dropWhile isBlank).head? = some c) : isBlank c = false := by
  have hhead := List.head?_dropWhile_not isBlank cs
  rw [h] at hhead
  exact hhead

theorem dropWhile_isBlank (h : ∀ c, cs.head? = some c → isBlank c = false) :
    cs.dropWhile isBlank = cs := by
  cases cs with
  | nil => rfl
  | cons c cs =>
    have hc : ¬ isBlank c = true := by simp [h c rfl]
    exact List.dropWhile_cons_of_neg hc

/-- Trimming takes away from the end what is left at the beginning. -/
theorem isPrefix_trimChars (cs : List Char) : trimChars cs <+: cs.dropWhile isBlank :=
  List.rdropWhile_prefix isBlank (cs.dropWhile isBlank)

theorem trimChars_subset (cs : List Char) : trimChars cs ⊆ cs := by
  intro c hc
  have hmem : c ∈ cs.dropWhile isBlank := (isPrefix_trimChars cs).subset hc
  exact (List.dropWhile_suffix isBlank).subset hmem

theorem isTrimmed_trimChars (cs : List Char) : IsTrimmed (trimChars cs) := by
  constructor
  · intro c hc
    -- trimming at the end does not change how the text begins
    obtain ⟨rest, hrest⟩ := isPrefix_trimChars cs
    have hhead : (cs.dropWhile isBlank).head? = some c := by
      rw [← hrest, List.head?_append, hc, Option.some_or]
    exact not_isBlank_of_head? hhead
  · intro c hc
    unfold trimChars at hc
    rw [List.getLast?_reverse] at hc
    exact not_isBlank_of_head? hc

/-- **Trimming leaves a text alone** when no blank stands at its ends. -/
theorem IsTrimmed.trimChars_eq (h : IsTrimmed cs) : trimChars cs = cs := by
  have hlast : ∀ c, cs.reverse.head? = some c → isBlank c = false := by
    intro c hc
    rw [List.head?_reverse] at hc
    exact h.last c hc
  unfold trimChars
  rw [dropWhile_isBlank h.first, dropWhile_isBlank hlast, List.reverse_reverse]

end Text

variable {a s : String} {items : List String}

/-! ## Items -/

/-- The text can be an item of a comma list. -/
structure IsItem (s : String) : Prop where
  /-- it says something -/
  ne_empty : s ≠ ""
  /-- it is not two items -/
  noComma : ',' ∉ s.toList
  /-- it does not begin or end with a blank -/
  isTrimmed : Text.IsTrimmed s.toList

/-- An item is a trimmed piece that is not empty. -/
theorem mem_commaItems_iff :
    s ∈ commaItems a ↔ ∃ piece ∈ Text.splitChars ',' a.toList,
      Text.trimChars piece = s.toList ∧ s ≠ "" := by
  unfold commaItems
  simp only [List.mem_map, List.mem_filter, Bool.not_eq_true', List.isEmpty_eq_false_iff]
  constructor
  · rintro ⟨_, ⟨⟨piece, hpiece, rfl⟩, hne⟩, rfl⟩
    refine ⟨piece, hpiece, by rw [String.toList_ofList], ?_⟩
    simpa using hne
  · rintro ⟨piece, hpiece, htrim, hne⟩
    refine ⟨s.toList, ⟨⟨piece, hpiece, htrim⟩, ?_⟩, String.ofList_toList⟩
    simpa using hne

/-- **What is read are items.** -/
theorem isItem_of_mem_commaItems (h : s ∈ commaItems a) : IsItem s := by
  obtain ⟨piece, hpiece, htrim, hne⟩ := mem_commaItems_iff.mp h
  have hcomma : ',' ∉ piece := Text.notMem_of_mem_splitChars hpiece
  refine ⟨hne, ?_, ?_⟩
  · rw [← htrim]
    exact fun hmem => hcomma (Text.trimChars_subset piece hmem)
  · rw [← htrim]
    exact Text.isTrimmed_trimChars piece

/-! ## Lists -/

theorem commaItems_empty : commaItems "" = [] := rfl

/-- A comma between two lists ends the last item of the first one. -/
theorem commaItems_append (a b : String) :
    commaItems (a ++ "," ++ b) = commaItems a ++ commaItems b := by
  have hchars : (a ++ "," ++ b).toList = a.toList ++ ',' :: b.toList := by simp
  unfold commaItems
  rw [hchars, Text.splitChars_append_separator, List.map_append, List.filter_append,
    List.map_append]

/-- An item by itself is read as itself. -/
theorem IsItem.commaItems_eq (h : IsItem s) : commaItems s = [s] := by
  have hne : s.toList.isEmpty = false := by simpa using h.ne_empty
  unfold commaItems
  rw [Text.splitChars_of_notMem h.noComma, List.map_singleton, h.isTrimmed.trimChars_eq]
  simp [hne]

/-- **Items are read back from the text that joins them.** -/
theorem commaItems_intercalate (h : ∀ s ∈ items, IsItem s) :
    commaItems (",".intercalate items) = items := by
  induction items with
  | nil => exact commaItems_empty
  | cons s rest ih =>
    obtain ⟨hs, hrest⟩ := List.forall_mem_cons.mp h
    -- no comma follows the last item
    cases rest with
    | nil =>
      rw [String.intercalate_singleton]
      exact hs.commaItems_eq
    | cons t rest =>
      rw [String.intercalate_cons_cons, commaItems_append, hs.commaItems_eq, ih hrest,
        List.singleton_append]

/-- Other lists are not read back. -/
theorem commaItems_intercalate_iff :
    commaItems (",".intercalate items) = items ↔ ∀ s ∈ items, IsItem s := by
  constructor
  · intro h s hs
    rw [← h] at hs
    exact isItem_of_mem_commaItems hs
  · exact commaItems_intercalate

/-! ## The verbs of settings -/

/-- Settings take their verbs from the environment, whatever texts override. -/
theorem Overrides.GivenBy.verbs_of_resolve {env : Environment} {fields : Fields} {o : Overrides}
    {settings : Settings} {raw : String} (h : o.GivenBy fields)
    (hs : (Settings.resolve env fields).2 = .ok settings)
    (hraw : env "GRANTCHECK_DANGEROUS_VERBS" = some raw) :
    settings.dangerousVerbs = commaItems raw := by
  obtain ⟨level, rfl⟩ := h.exists_level hs
  show Settings.environmentVerbs env = commaItems raw
  unfold Settings.environmentVerbs
  rw [hraw]

/-! ## Main theorem -/

/-- **The reader of comma lists is canonical.** A comma between two lists
    joins their items. Each item that is read says something, holds no comma
    and has no blank at its ends. A list is read back from its text, with
    its order and its repetitions, exactly when it consists of such items;
    so the text of what was read is read as the same. Settings take the
    dangerous verbs from the environment by this reader. -/
theorem comma_lists_are_canonical :
    (∀ a b : String, commaItems (a ++ "," ++ b) = commaItems a ++ commaItems b)
    ∧ (∀ a : String, ∀ s ∈ commaItems a, IsItem s)
    ∧ (∀ items : List String,
      commaItems (",".intercalate items) = items ↔ ∀ s ∈ items, IsItem s)
    ∧ (∀ a : String, commaItems (",".intercalate (commaItems a)) = commaItems a)
    ∧ ∀ env fields (o : Overrides) settings raw, o.GivenBy fields →
      (Settings.resolve env fields).2 = .ok settings →
      env "GRANTCHECK_DANGEROUS_VERBS" = some raw → settings.dangerousVerbs = commaItems raw := by
  refine ⟨commaItems_append, fun _ _ => isItem_of_mem_commaItems,
    fun _ => commaItems_intercalate_iff, ?_, ?_⟩
  · intro a
    exact commaItems_intercalate fun _ => isItem_of_mem_commaItems
  · intro env fields o settings raw h hs hraw
    exact h.verbs_of_resolve hs hraw

/-- The theorem at a list with blanks around its items, an empty one, a blank within an item, and an
    item that is repeated. -/
theorem comma_lists_are_canonical_at_blanks :
    let raw := " get ,, delete all,\t,get"
    let env : Environment := fun name =>
      if name = "GRANTCHECK_DANGEROUS_VERBS" then some raw else none
    "delete all" ∈ commaItems raw ∧ IsItem "delete all"
      ∧ commaItems (",".intercalate ["get", "delete all", "get"]) = ["get", "delete all", "get"]
      ∧ ∃ settings, (Settings.resolve env []).2 = .ok settings
        ∧ settings.dangerousVerbs = ["get", "delete all", "get"] := by
  intro raw env
  obtain ⟨-, hitems, hback, -, hsettings⟩ := comma_lists_are_canonical
  have hread : commaItems raw = ["get", "delete all", "get"] := by decide
  have hmem : "delete all" ∈ commaItems raw := by
    rw [hread]
    decide
  have hall : ∀ s ∈ ["get", "delete all", "get"], IsItem s := by
    rw [← hread]
    exact hitems raw
  have hfields : Overrides.GivenBy {} [] := ⟨rfl, rfl, rfl, rfl, rfl⟩
  have hresolve : (Settings.resolve env []).2 = .ok (({} : Overrides).settings env .warning) :=
    hfields.resolve_of_no_level rfl env
  refine ⟨hmem, hitems raw _ hmem, (hback _).mpr hall, _, hresolve, ?_⟩
  rw [hsettings env [] {} _ raw hfields hresolve rfl, hread]

end RoleGuard

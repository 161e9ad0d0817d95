import RoleGuard.Text.Blank

/-! # Pieces of a Text

    A list is written with a separator between its values. While no value
    holds the separator, the pieces of the text are the values again. Only
    the list without values is lost: its text is empty, and an empty text
    still has one piece.
-/

namespace RoleGuard.Text

/-- The pieces of a text between occurrences of a separator; there is always at least one. -/
def pieces (sep : Char) (s : String) : List String :=
  (splitChars sep s.toList).map String.ofList

variable {c sep : Char} {cs : List Char} {between : String} {values : List String}

/-! ## The first piece -/

theorem decide_ne_of_notMem (h : sep ∉ cs) : ∀ c ∈ cs, decide (c ≠ sep) = true := by
  intro c hc
  exact decide_eq_true (ne_of_mem_of_not_mem hc h)

theorem takeWhile_ne_append (h : sep ∉ cs) (rest : List Char) :
    (cs ++ sep :: rest).takeWhile (· ≠ sep) = cs := by
  rw [List.takeWhile_append_of_pos (decide_ne_of_notMem h)]
  simp

theorem dropWhile_ne_append (h : sep ∉ cs) (rest : List Char) :
    (cs ++ sep :: rest).dropWhile (· ≠ sep) = sep :: rest := by
  rw [List.dropWhile_append_of_pos (decide_ne_of_notMem h)]
  simp

theorem dropWhile_ne_of_notMem (h : sep ∉ cs) : cs.dropWhile (· ≠ sep) = [] := by
  rw [← List.append_nil cs, List.dropWhile_append_of_pos (decide_ne_of_notMem h)]
  rfl

/-! ## All pieces -/

/-- A character that stands neither in a value nor between them stands nowhere. -/
theorem notMem_intercalate (hbetween : c ∉ between.toList) (h : ∀ v ∈ values, c ∉ v.toList) :
    c ∉ (between.intercalate values).toList := by
  induction values with
  | nil => exact List.not_mem_nil
  | cons v vs ih =>
    obtain ⟨hv, hrest⟩ := List.forall_mem_cons.mp h
    cases vs with
    | nil => rwa [String.intercalate_singleton]
    | cons w vs =>
      rw [String.intercalate_cons_cons]
      simp only [String.toList_append, List.mem_append, not_or]
      exact ⟨⟨hv, hbetween⟩, ih hrest⟩

theorem splitChars_intercalate (hbetween : between.toList = [sep])
    (h : ∀ v ∈ values, sep ∉ v.toList) (hne : values ≠ []) :
    splitChars sep (between.intercalate values).toList = values.map String.toList := by
  rw [splitChars_eq_splitOn, String.toList_intercalate, hbetween]
  refine List.splitOn_intercalate sep ?_ (by simpa using hne)
  intro piece hpiece
  obtain ⟨v, hv, rfl⟩ := List.mem_map.mp hpiece
  exact h v hv

/-- Values are read back from the text that joins them. -/
theorem pieces_intercalate (hbetween : between.toList = [sep])
    (h : ∀ v ∈ values, sep ∉ v.toList) (hne : values ≠ []) :
    pieces sep (between.intercalate values) = values := by
  unfold pieces
  rw [splitChars_intercalate hbetween h hne, List.map_map]
  simp

/-- What is written value by value is read value by value. -/
theorem map_pieces_intercalate {α : Type} {read : String → α} {write : α → String} {xs : List α}
    (hbetween : between.toList = [sep]) (h : ∀ x ∈ xs, sep ∉ (write x).toList)
    (hread : ∀ x ∈ xs, read (write x) = x) (hne : xs ≠ []) :
    (pieces sep (between.intercalate (xs.map write))).map read = xs := by
  have hwritten : ∀ piece ∈ xs.map write, sep ∉ piece.toList := by
    intro piece hpiece
    obtain ⟨x, hx, rfl⟩ := List.mem_map.mp hpiece
    exact h x hx
  rw [pieces_intercalate hbetween hwritten (by simpa using hne), List.map_map]
  calc xs.map (read ∘ write)
      = xs.map id := List.map_congr_left hread
    _ = xs := List.map_id xs

end RoleGuard.Text

import RoleGuard.Files.Path
import RoleGuard.Text.Pieces

/-! # Normal Paths

    Files are looked up by paths, but the command line and messages hold
    texts. Reading a path drops the parts that mean nothing; what is left
    would be kept by another reading, so a path is read back from its text
    and two ways to spell it lead to one file.
-/

namespace RoleGuard

namespace Path

variable {p base : Path} {parts : List String} {part : String} {cs : List Char}

/-! ## Parts -/

/-- The part is kept as it is when a path is read. -/
structure IsPart (part : String) : Prop where
  /-- it is not empty -/
  ne_nil : part.toList ≠ []
  /-- it is not the point for the directory itself -/
  ne_point : part.toList ≠ ['.']
  /-- it is one part -/
  noSeparator : separator ∉ part.toList

theorem partsOf_eq (cs : List Char) :
    partsOf cs = ((cs.splitOn separator).filter fun part => part ≠ [] && part ≠ ['.']).map
      String.ofList := by
  unfold partsOf
  rw [Text.splitChars_eq_splitOn]

theorem isPart_of_mem_partsOf (h : part ∈ partsOf cs) : IsPart part := by
  obtain ⟨piece, hpiece, rfl⟩ := List.mem_map.mp h
  obtain ⟨hsplit, hkept⟩ := List.mem_filter.mp hpiece
  simp only [ne_eq, Bool.and_eq_true, decide_eq_true_eq] at hkept
  have hwhole : separator ∉ piece := Text.notMem_of_mem_splitChars hsplit
  exact ⟨by simpa using hkept.1, by simpa using hkept.2, by simpa using hwhole⟩

/-- A separator in front adds an empty part, which is dropped. -/
theorem partsOf_separator_cons (cs : List Char) : partsOf (separator :: cs) = partsOf cs := by
  rw [partsOf_eq, partsOf_eq, List.splitOn_cons_eq_if_modifyHead]
  simp

/-- Parts that are kept are read back from the text that joins them. -/
theorem partsOf_joinParts (h : ∀ part ∈ parts, IsPart part) :
    partsOf (joinParts parts).toList = parts := by
  by_cases hparts : parts = []
  · subst hparts
    decide
  · have hsplit : Text.splitChars separator (joinParts parts).toList = parts.map String.toList :=
      Text.splitChars_intercalate (String.toList_singleton separator)
        (fun part hpart => (h part hpart).noSeparator) hparts
    have hkept : ∀ piece ∈ parts.map String.toList, (piece ≠ [] && piece ≠ ['.']) = true := by
      intro piece hpiece
      obtain ⟨part, hpart, rfl⟩ := List.mem_map.mp hpiece
      simp [(h part hpart).ne_nil, (h part hpart).ne_point]
    unfold partsOf
    rw [hsplit, List.filter_eq_self.mpr hkept, List.map_map]
    simp

/-! ## Whole paths -/

/-- All parts of the path are kept when it is read. -/
def Normal (p : Path) : Prop :=
  ∀ part ∈ p.parts, IsPart part

theorem normal_ofText (s : String) : (ofText s).Normal :=
  fun _ hpart => isPart_of_mem_partsOf hpart

theorem normal_from (hbase : base.Normal) (hp : p.Normal) : (base.from_ p).Normal := by
  unfold from_
  split
  · exact hp
  · intro part hpart
    rcases List.mem_append.mp hpart with hmem | hmem
    · exact hbase part hmem
    · exact hp part hmem

/-- The text of parts does not start with a separator. -/
theorem takeWhile_joinParts (h : ∀ part ∈ parts, IsPart part) :
    (joinParts parts).toList.takeWhile (· = separator) = [] := by
  cases parts with
  | nil => decide
  | cons part rest =>
    have hpart := h part List.mem_cons_self
    obtain ⟨c, cs, hcs⟩ := List.exists_cons_of_ne_nil hpart.ne_nil
    have hc : c ≠ separator := by
      rintro rfl
      exact hpart.noSeparator (by simp [hcs])
    have hhead : ∃ tail, (joinParts (part :: rest)).toList = c :: tail := by
      unfold joinParts
      cases rest with
      | nil => exact ⟨cs, by simpa using hcs⟩
      | cons next rest =>
        rw [String.intercalate_cons_cons, String.toList_append, String.toList_append, hcs]
        exact ⟨_, rfl⟩
    obtain ⟨tail, htail⟩ := hhead
    rw [htail]
    simp [hc]

/-- **A normal path is read back from its text.** -/
theorem ofText_text (h : p.Normal) : ofText p.text = p := by
  obtain ⟨start, parts⟩ := p
  have hparts := partsOf_joinParts h
  have hslashes := takeWhile_joinParts h
  cases start with
  | relative =>
    by_cases hempty : parts = []
    · subst hempty
      decide
    · simp [text, ofText, startOf, hempty, hparts, hslashes]
  | root =>
    have htext : ("/" ++ joinParts parts).toList = separator :: (joinParts parts).toList := by
      rw [String.toList_append]
      rfl
    simp [text, ofText, startOf, htext, partsOf_separator_cons, hparts, hslashes]
  | doubleRoot =>
    have htext : ("//" ++ joinParts parts).toList
        = separator :: separator :: (joinParts parts).toList := by
      rw [String.toList_append]
      rfl
    simp [text, ofText, startOf, htext, partsOf_separator_cons, hparts, hslashes]

/-- A path that was read once is read again as it is. -/
theorem ofText_text_ofText (s : String) : ofText (ofText s).text = ofText s :=
  ofText_text (normal_ofText s)

end Path

end RoleGuard

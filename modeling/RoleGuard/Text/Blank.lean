/-! # Blank Characters

    Names and comma lists are trimmed of blanks before use. A blank is a
    character of the Unicode property White_Space or one of the four
    information separators U+001C to U+001F: 29 characters in all.
-/

namespace RoleGuard.Text

/-- Closed ranges of code points, ascending and apart. -/
def blankRanges : List (Nat × Nat) :=
  [(0x09, 0x0D), (0x1C, 0x20), (0x85, 0x85), (0xA0, 0xA0), (0x1680, 0x1680), (0x2000, 0x200A),
   (0x2028, 0x2029), (0x202F, 0x202F), (0x205F, 0x205F), (0x3000, 0x3000)]

/-- Membership of a code point in a list of closed ranges. -/
def inRanges (ranges : List (Nat × Nat)) (n : Nat) : Bool :=
  ranges.any fun r => r.1 ≤ n && n ≤ r.2

/-- Characters that trimming removes. -/
def isBlank (c : Char) : Bool :=
  inRanges blankRanges c.toNat

/-- A text without the blanks at its two ends. -/
def trimChars (cs : List Char) : List Char :=
  ((cs.dropWhile isBlank).reverse.dropWhile isBlank).reverse

/-- A text without the blanks at its two ends. -/
def trim (s : String) : String :=
  String.ofList (trimChars s.toList)

/-- The pieces of a text between occurrences of a separator; there is always at least one. -/
def splitChars (sep : Char) : List Char → List (List Char)
  | [] => [[]]
  | c :: cs =>
    if c = sep then [] :: splitChars sep cs
    else match splitChars sep cs with
      | [] => [[c]]
      | piece :: pieces => (c :: piece) :: pieces

theorem splitChars_eq_splitOn (sep : Char) (cs : List Char) :
    splitChars sep cs = cs.splitOn sep := by
  induction cs with
  | nil => rfl
  | cons c cs ih =>
    rw [splitChars, List.splitOn_cons_eq_if_modifyHead, ← ih]
    cases hpieces : splitChars sep cs with
    | nil => exact absurd (ih.symm.trans hpieces) (List.splitOn_ne_nil sep cs)
    | cons piece pieces => simp

/-- A separator ends a piece wherever it stands. -/
theorem splitChars_append_separator (sep : Char) (cs rest : List Char) :
    splitChars sep (cs ++ sep :: rest) = splitChars sep cs ++ splitChars sep rest := by
  simp only [splitChars_eq_splitOn]
  exact List.splitOn_append_cons_self cs rest

/-- A text without the separator is one piece. -/
theorem splitChars_of_notMem {sep : Char} {cs : List Char} (h : sep ∉ cs) :
    splitChars sep cs = [cs] := by
  rw [splitChars_eq_splitOn]
  exact List.splitOn_eq_singleton h

/-- The first piece ends at the first separator. -/
theorem splitChars_append {sep : Char} {cs : List Char} (h : sep ∉ cs) (rest : List Char) :
    splitChars sep (cs ++ sep :: rest) = cs :: splitChars sep rest := by
  rw [splitChars_append_separator, splitChars_of_notMem h, List.singleton_append]

/-- No piece holds the separator. -/
theorem notMem_of_mem_splitChars {sep : Char} {cs piece : List Char}
    (h : piece ∈ splitChars sep cs) : sep ∉ piece := by
  induction cs generalizing piece with
  | nil => simp_all [splitChars]
  | cons c cs ih =>
    rw [splitChars] at h
    split at h
    · rcases List.mem_cons.mp h with rfl | hrest
      · exact List.not_mem_nil
      · exact ih hrest
    · rename_i hc
      have hsep : sep ≠ c := Ne.symm hc
      cases hpieces : splitChars sep cs with
      | nil =>
        rw [hpieces] at h
        rw [List.mem_singleton.mp h]
        simpa using hsep
      | cons first rest =>
        rw [hpieces] at h ih
        rcases List.mem_cons.mp h with rfl | hrest
        · have hfirst := ih List.mem_cons_self
          simp [hfirst, hsep]
        · exact ih (List.mem_cons_of_mem first hrest)

end RoleGuard.Text

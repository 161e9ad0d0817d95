import RoleGuard.Proofs.Printing

/-! # Failures Are Read Off Their Text

    The text of a report first lists all errors and then, role by role, what
    there is to add. Only the beginnings of its lines tell these apart, but
    that is enough, whatever the lines say behind them:

    * **Errors**: they stand behind the title, and the heading of the first
      role ends them, since no heading begins like an error.
    * **Remedies**: a line that says nothing to add is the heading of a
      role, and the suggestions below it are those for this role.

    So the failures are read off the text, in order, with role, error and
    suggestions. The text says nothing else about a report that fails.
-/

namespace RoleGuard

/-- What a text tells about the failure of one role. -/
structure Told where
  /-- name of the role -/
  role : String
  /-- wording of the first escalation -/
  error : String
  /-- the annotations that ask for what is missing -/
  suggestions : List String
deriving DecidableEq, Repr

/-- What is told about a finding. Its missing rules are not. -/
def Finding.told (f : Finding) : Told :=
  ⟨f.role, f.error, f.suggestions⟩

namespace Report

open CommandLine

variable {r s : Report} {f : Finding} {fs : List Finding}

/-! ## A reader of the text -/

/-- What stands behind the beginning of a line. -/
def behind (beginning line : String) : String :=
  String.ofList (line.toList.drop beginning.toList.length)

/-- The role that a heading names, without the colon at its end. -/
def roleIn (heading : String) : String :=
  String.ofList (behind "Missing permissions for role " heading).toList.dropLast

/-- The line states an error. -/
def isError (line : String) : Bool :=
  "  - ".toList.isPrefixOf line.toList

/-- The roles that lines tell about, each with its suggestions. Suggestions that no
    heading stands above are kept apart, since they belong to the role before the lines. -/
def remediesIn : List String → List String × List (String × List String)
  | [] => ([], [])
  | line :: rest =>
    let (suggestions, roles) := remediesIn rest
    if isRemedy line then (behind "  Add: " line :: suggestions, roles)
    else ([], (roleIn line, suggestions) :: roles)

/-- The failures that the lines of a report tell. The title and the hint tell none. -/
def failuresIn (lines : List String) : List Told :=
  let body := lines.drop 1
  List.zipWith (fun line remedy => ⟨remedy.1, behind "  - " line, remedy.2⟩)
    (body.takeWhile isError) (remediesIn (body.dropWhile isError).dropLast).2

/-- The failures that a text tells. -/
def failuresOf (text : String) : List Told :=
  failuresIn (Text.pieces '\n' text)

/-! ## Single lines -/

theorem behind_append (beginning s : String) : behind beginning (beginning ++ s) = s := by
  unfold behind
  rw [String.toList_append, List.drop_left, String.ofList_toList]

theorem roleIn_heading (role : String) :
    roleIn ("Missing permissions for role " ++ role ++ ":") = role := by
  unfold roleIn
  rw [String.append_assoc, behind_append, String.toList_append]
  have hcolon : ":".toList = [':'] := rfl
  rw [hcolon, List.dropLast_concat, String.ofList_toList]

theorem isError_append (s : String) : isError ("  - " ++ s) = true := by
  unfold isError
  rw [String.toList_append, List.isPrefixOf_iff_prefix]
  exact List.prefix_append _ _

theorem isError_heading (role : String) :
    isError ("Missing permissions for role " ++ role ++ ":") = false := by
  unfold isError
  rw [String.append_assoc, String.toList_append]
  rfl

theorem isRemedy_add (s : String) : isRemedy ("  Add: " ++ s) = true := by
  rw [isRemedy_append, List.isPrefixOf_iff_prefix]
  exact List.prefix_append _ _

theorem isRemedy_heading (role : String) :
    isRemedy ("Missing permissions for role " ++ role ++ ":") = false := by
  rw [String.append_assoc, isRemedy_append]
  rfl

/-! ## The block of remedies -/

/-- Suggestions go to the lines before them, and leave the roles behind them alone. -/
theorem remediesIn_suggestions (suggestions rest : List String) :
    remediesIn (suggestions.map ("  Add: " ++ ·) ++ rest)
      = (suggestions ++ (remediesIn rest).1, (remediesIn rest).2) := by
  induction suggestions with
  | nil => rfl
  | cons s suggestions ih =>
    rw [List.map_cons, List.cons_append, remediesIn, ih, isRemedy_add, behind_append]
    rfl

/-- A heading takes the suggestions below it, and leaves none for the role before. -/
theorem remediesIn_remedyLines (f : Finding) (rest : List String) :
    remediesIn (remedyLines f ++ rest)
      = ([], (f.role, f.suggestions ++ (remediesIn rest).1) :: (remediesIn rest).2) := by
  unfold remedyLines
  rw [List.cons_append, remediesIn, remediesIn_suggestions, isRemedy_heading, roleIn_heading]
  rfl

theorem remediesIn_flatMap (fs : List Finding) :
    remediesIn (fs.flatMap remedyLines) = ([], fs.map fun f => (f.role, f.suggestions)) := by
  induction fs with
  | nil => rfl
  | cons f fs ih =>
    rw [List.flatMap_cons, remediesIn_remedyLines, ih, List.append_nil, List.map_cons]

/-! ## The block of errors -/

theorem lines_of_failures (h : r.findings ≠ []) :
    r.lines = ("RBAC validation failed with " ++ toString r.errorCount ++ " error(s):")
      :: (r.findings.map fun f => "  - " ++ f.error)
      ++ r.findings.flatMap remedyLines ++ [remediationHint] := by
  have hok : r.ok = false := by simpa [ok] using h
  unfold lines
  rw [hok]
  rfl

theorem isError_of_mem {line : String} (h : line ∈ fs.map fun f => "  - " ++ f.error) :
    isError line = true := by
  obtain ⟨f, _, rfl⟩ := List.mem_map.mp h
  exact isError_append f.error

/-- No error follows the errors: there is a finding, and its heading comes first. -/
theorem head_remedies_not_error (h : fs ≠ []) (rest : List String) :
    ∃ heading tail, fs.flatMap remedyLines ++ rest = heading :: tail ∧ isError heading = false := by
  obtain ⟨f, fs, rfl⟩ := List.exists_cons_of_ne_nil h
  exact ⟨_, _, rfl, isError_heading f.role⟩

theorem takeWhile_isError (h : fs ≠ []) (rest : List String) :
    ((fs.map fun f => "  - " ++ f.error) ++ (fs.flatMap remedyLines ++ rest)).takeWhile isError
      = fs.map fun f => "  - " ++ f.error := by
  obtain ⟨heading, tail, hremedies, hheading⟩ := head_remedies_not_error h rest
  rw [List.takeWhile_append_of_pos fun _ => isError_of_mem, hremedies,
    List.takeWhile_cons_of_neg (by rw [hheading]; exact Bool.false_ne_true), List.append_nil]

theorem dropWhile_isError (h : fs ≠ []) (rest : List String) :
    ((fs.map fun f => "  - " ++ f.error) ++ (fs.flatMap remedyLines ++ rest)).dropWhile isError
      = fs.flatMap remedyLines ++ rest := by
  obtain ⟨heading, tail, hremedies, hheading⟩ := head_remedies_not_error h rest
  rw [List.dropWhile_append_of_pos fun _ => isError_of_mem, hremedies,
    List.dropWhile_cons_of_neg (by rw [hheading]; exact Bool.false_ne_true)]

/-! ## Whole texts -/

/-- The failures are read off the lines, whatever they say behind their beginnings. -/
theorem failuresIn_lines (h : r.findings ≠ []) :
    failuresIn r.lines = r.findings.map Finding.told := by
  unfold failuresIn
  rw [lines_of_failures h]
  simp only [List.cons_append, List.drop_succ_cons, List.drop_zero, List.append_assoc]
  rw [takeWhile_isError h, dropWhile_isError h, List.dropLast_concat, remediesIn_flatMap,
    List.zipWith_map, List.zipWith_self]
  simp only [behind_append]
  rfl

/-- **The failures are read off the text** of a report that fails, as long as what is told
    holds no line feed. -/
theorem failuresOf_text (h : r.findings ≠ []) (hlines : ∀ f ∈ r.findings, f.IsOneLine) :
    failuresOf r.text = r.findings.map Finding.told := by
  have hne : r.lines ≠ [] := by
    rw [lines_of_failures h]
    simp
  have hpieces : Text.pieces '\n' r.text = r.lines :=
    Text.pieces_intercalate rfl (oneLine_lines hlines) hne
  unfold failuresOf
  rw [hpieces, failuresIn_lines h]

/-- Reports that tell the same have the same text. -/
theorem text_eq_of_told (hr : r.findings ≠ []) (hs : s.findings ≠ [])
    (h : r.findings.map Finding.told = s.findings.map Finding.told) : r.text = s.text := by
  have hcount : r.errorCount = s.errorCount := by
    simpa [errorCount] using congrArg List.length h
  have herrors : (r.findings.map fun f => "  - " ++ f.error)
      = s.findings.map fun f => "  - " ++ f.error := by
    have hmap := congrArg (List.map fun t : Told => "  - " ++ t.error) h
    rw [List.map_map, List.map_map] at hmap
    exact hmap
  have hremedies : r.findings.flatMap remedyLines = s.findings.flatMap remedyLines := by
    have hblocks := congrArg (List.flatMap fun t : Told =>
      ("Missing permissions for role " ++ t.role ++ ":") :: t.suggestions.map ("  Add: " ++ ·)) h
    rw [List.flatMap_map, List.flatMap_map] at hblocks
    exact hblocks
  unfold text
  rw [lines_of_failures hr, lines_of_failures hs, hcount, herrors, hremedies]

/-! ## Main theorem -/

/-- **The text of a failure loses nothing that it tells.** If no role, error
    or suggestion holds a line feed, two reports that fail have one text
    exactly when they tell the same failures, in the same order. The number
    of failures, each error and the suggestions for each role are read off
    the text, even if roles repeat, a role has no suggestion, or a text
    looks like a line of another kind. -/
theorem failure_text_is_lossless (hr : r.findings ≠ []) (hs : s.findings ≠ [])
    (hrlines : ∀ f ∈ r.findings, f.IsOneLine) (hslines : ∀ f ∈ s.findings, f.IsOneLine) :
    (r.text = s.text ↔ r.findings.map Finding.told = s.findings.map Finding.told)
    ∧ failuresOf r.text = r.findings.map Finding.told := by
  have hread : failuresOf r.text = r.findings.map Finding.told := failuresOf_text hr hrlines
  refine ⟨?_, hread⟩
  constructor
  · intro h
    rw [← hread, h, failuresOf_text hs hslines]
  · intro h
    exact text_eq_of_told hr hs h

/-- The theorem at two reports about one role that fails twice. The texts of its errors look like
    lines of other kinds, and the reports differ only in which failure has a suggestion. -/
theorem failure_text_is_lossless_at_repeated_role :
    let first : Finding := ⟨"web", "  Add: x", [], ["  - x"]⟩
    let second : Finding := ⟨"web", "Missing permissions for role web:", [], []⟩
    let r : Report := ⟨["web"], [first, second]⟩
    let s : Report :=
      ⟨[], [{ first with suggestions := [] }, { second with suggestions := ["  - x"] }]⟩
    r.findings ≠ [] ∧ s.findings ≠ []
      ∧ (∀ f ∈ r.findings, f.IsOneLine) ∧ (∀ f ∈ s.findings, f.IsOneLine)
      ∧ r.text ≠ s.text
      ∧ failuresOf r.text
          = [⟨"web", "  Add: x", ["  - x"]⟩, ⟨"web", "Missing permissions for role web:", []⟩] := by
  intro first second r s
  have hr : r.findings ≠ [] := List.cons_ne_nil _ _
  have hs : s.findings ≠ [] := List.cons_ne_nil _ _
  have hrlines : ∀ f ∈ r.findings, f.IsOneLine := by
    intro f hf
    simp only [r, List.mem_cons, List.not_mem_nil, or_false] at hf
    rcases hf with rfl | rfl <;> exact ⟨by decide, by decide, by decide⟩
  have hslines : ∀ f ∈ s.findings, f.IsOneLine := by
    intro f hf
    simp only [s, List.mem_cons, List.not_mem_nil, or_false] at hf
    rcases hf with rfl | rfl <;> exact ⟨by decide, by decide, by decide⟩
  obtain ⟨hiff, hread⟩ := failure_text_is_lossless hr hs hrlines hslines
  refine ⟨hr, hs, hrlines, hslines, ?_, hread⟩
  rw [Ne, hiff]
  decide

end Report

end RoleGuard

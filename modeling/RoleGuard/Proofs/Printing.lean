import RoleGuard.CommandLine.Run
import RoleGuard.Proofs.Grantor
import RoleGuard.Text.Pieces

/-! # Printed Lines

    Reports are lists of lines, but what is printed is one text. As long as
    no name and no value of a rule holds a line feed, the lines can be read
    off the text again. Those that say what to add are told from the others
    by how they begin.
-/

namespace RoleGuard

/-! ## Texts of one line -/

/-- The text holds no line feed. -/
def OneLine (s : String) : Prop :=
  '\n' ∉ s.toList

instance (s : String) : Decidable (OneLine s) :=
  inferInstanceAs (Decidable ('\n' ∉ s.toList))

variable {s t sep : String} {ss : List String}

theorem oneLine_append : OneLine (s ++ t) ↔ OneLine s ∧ OneLine t := by
  unfold OneLine
  rw [String.toList_append, List.mem_append, not_or]

theorem oneLine_intercalate (hsep : OneLine sep) (h : ∀ s ∈ ss, OneLine s) :
    OneLine (sep.intercalate ss) :=
  Text.notMem_intercalate hsep h

theorem oneLine_toString (n : Nat) : OneLine (toString n) := by
  intro hmem
  have hdigits : '\n' ∈ Nat.toDigits 10 n := by
    have hrepr : (toString n).toList = Nat.toDigits 10 n := String.toList_ofList
    rwa [hrepr] at hmem
  exact absurd (Nat.isDigit_of_mem_toDigits (by decide) (by decide) hdigits) (by decide)

/-! ## Rules and findings of one line each -/

/-- No value of the rule holds a line feed. -/
structure Rule.IsOneLine (r : Rule) : Prop where
  /-- API groups -/
  apiGroups : ∀ v ∈ r.apiGroups, OneLine v
  /-- resource types -/
  resources : ∀ v ∈ r.resources, OneLine v
  /-- actions -/
  verbs : ∀ v ∈ r.verbs, OneLine v
  /-- named instances -/
  resourceNames : ∀ v ∈ r.resourceNames, OneLine v

/-- Neither the name of the role nor its rules hold a line feed. -/
structure Request.IsOneLine (q : Request) : Prop where
  /-- the name -/
  name : OneLine q.name
  /-- the rules -/
  rules : ∀ r ∈ q.rules, r.IsOneLine

/-- The finding can be printed with one line for each of its parts. -/
structure Finding.IsOneLine (f : Finding) : Prop where
  /-- the name of the role -/
  role : OneLine f.role
  /-- the wording of the error -/
  error : OneLine f.error
  /-- the annotations -/
  suggestions : ∀ s ∈ f.suggestions, OneLine s

theorem oneLine_bracket {values : List String} (h : ∀ v ∈ values, OneLine v) :
    OneLine (bracket values) := by
  unfold bracket
  rw [oneLine_append, oneLine_append]
  refine ⟨⟨by decide, oneLine_intercalate (by decide) ?_⟩, by decide⟩
  intro s hs
  obtain ⟨v, hv, rfl⟩ := List.mem_map.mp hs
  split
  · decide
  · exact h v hv

theorem oneLine_joined {values : List String} (h : ∀ v ∈ values, OneLine v) :
    OneLine (joined values) :=
  oneLine_intercalate (by decide) h

namespace Rule

variable {r : Rule}

theorem oneLine_summary (h : r.IsOneLine) : OneLine r.summary := by
  unfold summary
  simp only [oneLine_append]
  exact ⟨⟨⟨⟨⟨by decide, oneLine_bracket h.apiGroups⟩, by decide⟩, oneLine_bracket h.resources⟩,
    by decide⟩, oneLine_bracket h.verbs⟩

theorem oneLine_groupsClause (h : r.IsOneLine) : OneLine r.groupsClause := by
  unfold groupsClause
  dsimp only
  split
  · decide
  · exact oneLine_joined h.apiGroups

theorem oneLine_annotation {marker : String} (hmarker : OneLine marker) (h : r.IsOneLine) :
    OneLine (r.annotation marker) := by
  have hnames : OneLine
      (if r.resourceNames.isEmpty then "" else ",resourceNames=" ++ joined r.resourceNames) := by
    split
    · decide
    · exact oneLine_append.mpr ⟨by decide, oneLine_joined h.resourceNames⟩
  unfold annotation
  simp only [oneLine_append]
  exact ⟨⟨⟨⟨⟨⟨⟨hmarker, by decide⟩, oneLine_groupsClause h⟩, by decide⟩,
    oneLine_joined h.resources⟩, by decide⟩, oneLine_joined h.verbs⟩, hnames⟩

end Rule

namespace Grantor

variable {g : Grantor} {q : Request} {e : Escalation}

theorem isOneLine_findingAt (hmarker : OneLine g.marker) (hq : q.IsOneLine)
    (he : g.check q = some e) : (g.findingAt q e).IsOneLine where
  role := hq.name
  error := by
    obtain ⟨hrole, hhead⟩ := check_eq_some_iff.mp he
    have hrule : e.rule ∈ q.rules := (List.mem_filter.mp (List.mem_of_mem_head? hhead)).1
    show OneLine e.message
    unfold Escalation.message
    simp only [oneLine_append, hrole]
    exact ⟨⟨⟨by decide, hq.name⟩, by decide⟩, Rule.oneLine_summary (hq.rules _ hrule)⟩
  suggestions := by
    intro s hs
    obtain ⟨r, hr, rfl⟩ := List.mem_map.mp hs
    exact Rule.oneLine_annotation hmarker (hq.rules r (List.mem_filter.mp hr).1)

end Grantor

/-! ## The lines of an output -/

namespace CommandLine

/-- The lines of an output. What stands behind the last line feed is the last of them. -/
def linesOf (stdout : String) : List String :=
  (Text.splitChars '\n' stdout.toList).map String.ofList

theorem linesOf_append (h : OneLine s) (rest : String) :
    linesOf (s ++ "\n" ++ rest) = s :: linesOf rest := by
  have hchars : (s ++ "\n" ++ rest).toList = s.toList ++ '\n' :: rest.toList := by
    simp
  unfold linesOf
  rw [hchars, Text.splitChars_append h, List.map_cons, String.ofList_toList]

theorem lines_cons (s : String) (ss : List String) : lines (s :: ss) = s ++ "\n" ++ lines ss := by
  unfold lines
  rw [List.map_cons, String.join_cons]

/-- What was printed line by line is read line by line. -/
theorem linesOf_lines (h : ∀ s ∈ ss, OneLine s) : linesOf (lines ss) = ss ++ [""] := by
  induction ss with
  | nil => rfl
  | cons s ss ih =>
    obtain ⟨hs, hrest⟩ := List.forall_mem_cons.mp h
    rw [lines_cons, linesOf_append hs, ih hrest, List.cons_append]

/-- Lines with breaks between them need one break more. -/
theorem intercalate_newline (h : ss ≠ []) : "\n".intercalate ss ++ "\n" = lines ss := by
  induction ss with
  | nil => exact absurd rfl h
  | cons s ss ih =>
    cases ss with
    | nil =>
      rw [String.intercalate_singleton, lines_cons]
      exact (String.append_empty).symm
    | cons t ss =>
      rw [String.intercalate_cons_cons, String.append_assoc, ih (List.cons_ne_nil t ss),
        ← lines_cons]

/-- The line says what to add. -/
def isRemedy (line : String) : Bool :=
  "  Add: ".toList.isPrefixOf line.toList

theorem isRemedy_append (s t : String) :
    isRemedy (s ++ t) = "  Add: ".toList.isPrefixOf (s.toList ++ t.toList) := by
  unfold isRemedy
  rw [String.toList_append]

theorem filter_remedyLines (f : Finding) :
    (Report.remedyLines f).filter isRemedy = f.suggestions.map ("  Add: " ++ ·) := by
  have hhead : isRemedy ("Missing permissions for role " ++ f.role ++ ":") = false := by
    rw [isRemedy_append, String.toList_append]
    rfl
  have hrest : ∀ line ∈ f.suggestions.map ("  Add: " ++ ·), isRemedy line = true := by
    intro line hline
    obtain ⟨s, _, rfl⟩ := List.mem_map.mp hline
    rw [isRemedy_append, List.isPrefixOf_iff_prefix]
    exact List.prefix_append _ _
  unfold Report.remedyLines
  rw [List.filter_cons_of_neg (Bool.eq_false_iff.mp hhead), List.filter_eq_self.mpr hrest]

/-- The lines that say what to add are those of the suggestions, in order. -/
theorem filter_lines (r : Report) :
    r.lines.filter isRemedy = (r.findings.flatMap Finding.suggestions).map ("  Add: " ++ ·) := by
  unfold Report.lines
  split
  · rename_i hok
    have hnil : r.findings = [] := List.isEmpty_iff.mp hok
    rw [hnil, List.filter_cons_of_neg]
    · rfl
    · rw [String.append_assoc, isRemedy_append]
      exact Bool.false_ne_true
  · have htitle : isRemedy ("RBAC validation failed with " ++ toString r.errorCount ++ " error(s):")
        = false := by
      rw [String.append_assoc, isRemedy_append]
      rfl
    have herrors : (r.findings.map fun f => "  - " ++ f.error).filter isRemedy = [] := by
      rw [List.filter_eq_nil_iff]
      intro line hline
      obtain ⟨f, _, rfl⟩ := List.mem_map.mp hline
      rw [isRemedy_append]
      exact Bool.false_ne_true
    have hhint : isRemedy Report.remediationHint = false := by
      unfold Report.remediationHint
      rw [isRemedy_append]
      rfl
    rw [List.filter_append, List.filter_append,
      List.filter_cons_of_neg (Bool.eq_false_iff.mp htitle), herrors, List.filter_flatMap]
    simp [filter_remedyLines, hhint, List.map_flatMap]

/-- No line of the report holds a line feed. -/
theorem oneLine_lines {r : Report} (h : ∀ f ∈ r.findings, f.IsOneLine) :
    ∀ line ∈ r.lines, OneLine line := by
  intro line hline
  unfold Report.lines at hline
  split at hline
  · obtain rfl := List.mem_singleton.mp hline
    simp only [oneLine_append]
    exact ⟨⟨by decide, oneLine_toString _⟩, by decide⟩
  · rw [List.mem_append, List.mem_append, List.mem_cons, List.mem_map, List.mem_flatMap,
      List.mem_singleton] at hline
    rcases hline with (((rfl | ⟨f, hf, rfl⟩) | ⟨f, hf, hremedy⟩) | rfl)
    · simp only [oneLine_append]
      exact ⟨⟨by decide, oneLine_toString _⟩, by decide⟩
    · exact oneLine_append.mpr ⟨by decide, (h f hf).error⟩
    · rcases List.mem_cons.mp hremedy with rfl | hadd
      · simp only [oneLine_append]
        exact ⟨⟨by decide, (h f hf).role⟩, by decide⟩
      · obtain ⟨s, hs, rfl⟩ := List.mem_map.mp hadd
        exact oneLine_append.mpr ⟨by decide, (h f hf).suggestions s hs⟩
    · exact oneLine_append.mpr ⟨by decide, by decide⟩

/-- The lines of an output that say what to add. -/
def remediesOf (stdout : String) : List String :=
  (linesOf stdout).filter isRemedy

/-- **A printed report says what to add**: one line for each suggestion, in order. -/
theorem remediesOf_text {r : Report} (h : ∀ f ∈ r.findings, f.IsOneLine) :
    remediesOf (printedReport .text r)
      = (r.findings.flatMap Finding.suggestions).map ("  Add: " ++ ·) := by
  have hne : r.lines ≠ [] := by
    unfold Report.lines
    split <;> simp
  have hlines : printedReport .text r = lines r.lines := intercalate_newline hne
  unfold remediesOf
  rw [hlines, linesOf_lines (oneLine_lines h), List.filter_append, filter_lines]
  exact List.append_nil _

end CommandLine

end RoleGuard

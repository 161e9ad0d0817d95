import RoleGuard.Grantor
import RoleGuard.Rule.Clause
import RoleGuard.Text.Pieces

/-! # Messages Pin the Rule

    The message of an escalation is one text, with three lists flattened
    into it. Blanks stand within the brackets and between them, and the core
    group has a token. The lists are still read off the text:

    * **Axes**: a closing bracket ends an axis, since no value holds one,
      and an opening bracket stands before its values.
    * **Values**: no token is empty, so nothing between the brackets means
      no value at all. The empty value alone leaves its token there.

    So two messages for one role are equal exactly when their rules agree on
    groups, resources and verbs. Names are not written, and no message tells
    them apart.
-/

namespace RoleGuard

variable {values : List String} {v key : String}

/-! ## Tokens -/

/-- The value holds nothing that a message writes of its own around and for values. -/
structure Unmarked (v : String) : Prop where
  /-- no separator of values -/
  noBlank : ' ' ∉ v.toList
  /-- no beginning of an axis -/
  noOpening : '[' ∉ v.toList
  /-- no end of an axis -/
  noClosing : ']' ∉ v.toList
  /-- nothing of the token of the core group -/
  noQuote : Text.doubleQuote ∉ v.toList

instance (v : String) : Decidable (Unmarked v) :=
  decidable_of_iff
    (' ' ∉ v.toList ∧ '[' ∉ v.toList ∧ ']' ∉ v.toList ∧ Text.doubleQuote ∉ v.toList)
    ⟨fun ⟨hblank, hopening, hclosing, hquote⟩ => ⟨hblank, hopening, hclosing, hquote⟩,
      fun h => ⟨h.noBlank, h.noOpening, h.noClosing, h.noQuote⟩⟩

/-- The value that a token stands for. -/
def tokenValue (token : String) : String :=
  if token = coreGroupToken then "" else token

theorem Unmarked.ne_coreGroupToken (h : Unmarked v) : v ≠ coreGroupToken := by
  rintro rfl
  exact h.noQuote (by decide)

/-- A value is read back from its token, since no value looks like the token of the core group. -/
theorem Unmarked.tokenValue_groupToken (h : Unmarked v) : tokenValue (groupToken v) = v := by
  unfold tokenValue groupToken
  by_cases hempty : v = ""
  · rw [if_pos hempty, if_pos rfl, hempty]
  · rw [if_neg hempty, if_neg h.ne_coreGroupToken]

/-- A character stands in no token when neither the value nor the token of the core group holds
    it. -/
theorem notMem_groupToken {c : Char} (htoken : c ∉ coreGroupToken.toList) (hv : c ∉ v.toList) :
    c ∉ (groupToken v).toList := by
  unfold groupToken
  split
  · exact htoken
  · exact hv

/-! ## Values between brackets -/

/-- The tokens of values, with blanks between them. -/
def tokenText (values : List String) : String :=
  " ".intercalate (values.map groupToken)

/-- The values whose tokens stand between two brackets. -/
def valuesIn (inside : String) : List String :=
  if inside = "" then [] else (Text.pieces ' ' inside).map tokenValue

/-- Values are read token by token, as long as there are any. -/
theorem map_pieces_tokenText (h : ∀ v ∈ values, Unmarked v) (hne : values ≠ []) :
    (Text.pieces ' ' (tokenText values)).map tokenValue = values := by
  have hblank : ∀ v ∈ values, ' ' ∉ (groupToken v).toList := by
    intro v hv
    exact notMem_groupToken (by decide) (h v hv).noBlank
  have hread : ∀ v ∈ values, tokenValue (groupToken v) = v := by
    intro v hv
    exact (h v hv).tokenValue_groupToken
  exact Text.map_pieces_intercalate rfl hblank hread hne

/-- Only the list without values leaves nothing between the brackets. -/
theorem tokenText_ne_empty (h : ∀ v ∈ values, Unmarked v) (hne : values ≠ []) :
    tokenText values ≠ "" := by
  intro hempty
  -- an empty text would be read as the empty value alone, but that one has a token
  have hvalues : [""] = values := by
    rw [← map_pieces_tokenText h hne, hempty]
    rfl
  rw [← hvalues] at hempty
  exact absurd hempty (by decide)

/-- **Values are read back from between their brackets.** The list without values is told from the
    one with the empty value. -/
theorem valuesIn_tokenText (h : ∀ v ∈ values, Unmarked v) :
    valuesIn (tokenText values) = values := by
  unfold valuesIn
  by_cases hne : values = []
  · rw [hne]
    rfl
  · rw [if_neg (tokenText_ne_empty h hne), map_pieces_tokenText h hne]

/-! ## Axes of a summary -/

/-- An axis in the text of a rule, up to its closing bracket. -/
def axisText (key : String) (values : List String) : String :=
  key ++ "[" ++ tokenText values

/-- What stands behind the first opening bracket. -/
def behindBracket (s : String) : String :=
  String.ofList ((s.toList.dropWhile (· ≠ '[')).drop 1)

/-- The values that a summary shows, axis by axis. Nothing stands behind the last bracket. -/
def axesIn (summary : String) : List (List String) :=
  (Text.pieces ']' summary).dropLast.map fun axis => valuesIn (behindBracket axis)

theorem behindBracket_axisText (hkey : '[' ∉ key.toList) (values : List String) :
    behindBracket (axisText key values) = tokenText values := by
  have hbracket : "[".toList = ['['] := rfl
  unfold behindBracket axisText
  rw [String.toList_append, String.toList_append, hbracket, List.append_assoc,
    List.singleton_append, Text.dropWhile_ne_append hkey, List.drop_one, List.tail_cons,
    String.ofList_toList]

theorem valuesIn_axisText (hkey : '[' ∉ key.toList) (h : ∀ v ∈ values, Unmarked v) :
    valuesIn (behindBracket (axisText key values)) = values := by
  rw [behindBracket_axisText hkey, valuesIn_tokenText h]

theorem notMem_axisText (hkey : ']' ∉ key.toList) (h : ∀ v ∈ values, Unmarked v) :
    ']' ∉ (axisText key values).toList := by
  have hclosing : ∀ token ∈ values.map groupToken, ']' ∉ token.toList := by
    intro token htoken
    obtain ⟨v, hv, rfl⟩ := List.mem_map.mp htoken
    exact notMem_groupToken (by decide) (h v hv).noClosing
  have htokens : ']' ∉ (tokenText values).toList :=
    Text.notMem_intercalate (by decide) hclosing
  unfold axisText
  simp only [String.toList_append, List.mem_append, not_or]
  exact ⟨⟨hkey, by decide⟩, htokens⟩

namespace Rule

variable {r s : Rule}

/-- No group, resource or verb of the rule holds a mark of a message. Names may. -/
structure IsUnmarked (r : Rule) : Prop where
  /-- API groups -/
  apiGroups : ∀ v ∈ r.apiGroups, Unmarked v
  /-- resource types -/
  resources : ∀ v ∈ r.resources, Unmarked v
  /-- actions -/
  verbs : ∀ v ∈ r.verbs, Unmarked v

/-- The texts of the axes, each up to its closing bracket. -/
def axisTexts (r : Rule) : List String :=
  [axisText "APIGroups:" r.apiGroups, axisText " Resources:" r.resources,
    axisText " Verbs:" r.verbs]

/-- A summary is its axes, with a closing bracket behind each of them. -/
theorem summary_eq (r : Rule) : r.summary = "]".intercalate (r.axisTexts ++ [""]) := by
  unfold summary axisTexts axisText tokenText
  simp only [bracket_eq, List.cons_append, List.nil_append, String.intercalate_cons_cons,
    String.intercalate_singleton, String.append_assoc, String.append_empty]

theorem IsUnmarked.notMem_axisTexts (h : r.IsUnmarked) :
    ∀ axis ∈ r.axisTexts ++ [""], ']' ∉ axis.toList := by
  have hgroups : ']' ∉ (axisText "APIGroups:" r.apiGroups).toList :=
    notMem_axisText (by decide) h.apiGroups
  have hresources : ']' ∉ (axisText " Resources:" r.resources).toList :=
    notMem_axisText (by decide) h.resources
  have hverbs : ']' ∉ (axisText " Verbs:" r.verbs).toList :=
    notMem_axisText (by decide) h.verbs
  simpa [axisTexts] using ⟨hgroups, hresources, hverbs⟩

/-- **The axes are read off the summary.** -/
theorem IsUnmarked.axesIn_summary (h : r.IsUnmarked) :
    axesIn r.summary = [r.apiGroups, r.resources, r.verbs] := by
  -- the summary ends in a bracket, which leaves an empty piece behind it
  have hpieces : Text.pieces ']' r.summary = r.axisTexts ++ [""] := by
    rw [summary_eq]
    exact Text.pieces_intercalate rfl h.notMem_axisTexts (by simp)
  unfold axesIn
  rw [hpieces, List.dropLast_concat]
  unfold axisTexts
  simp only [List.map_cons, List.map_nil]
  rw [valuesIn_axisText (by decide) h.apiGroups, valuesIn_axisText (by decide) h.resources,
    valuesIn_axisText (by decide) h.verbs]

/-- Names are not written. -/
theorem summary_congr (hgroups : r.apiGroups = s.apiGroups) (hresources : r.resources = s.resources)
    (hverbs : r.verbs = s.verbs) : r.summary = s.summary := by
  unfold summary
  rw [hgroups, hresources, hverbs]

theorem IsUnmarked.summary_eq_iff (hr : r.IsUnmarked) (hs : s.IsUnmarked) :
    r.summary = s.summary ↔
      r.apiGroups = s.apiGroups ∧ r.resources = s.resources ∧ r.verbs = s.verbs := by
  constructor
  · intro h
    have haxes : [r.apiGroups, r.resources, r.verbs] = [s.apiGroups, s.resources, s.verbs] := by
      rw [← hr.axesIn_summary, h, hs.axesIn_summary]
    simpa using haxes
  · rintro ⟨hgroups, hresources, hverbs⟩
    exact summary_congr hgroups hresources hverbs

/-- Messages for one role differ only in the summaries of their rules. -/
theorem message_eq_iff (role : String) :
    (Escalation.mk role r).message = (Escalation.mk role s).message ↔ r.summary = s.summary := by
  unfold Escalation.message
  exact String.append_right_inj _

/-! ## Main theorem -/

/-- **A message pins the uncovered rule, its names apart.** If no group,
    resource or verb holds a blank, a bracket or a quotation mark, two rules
    have one summary exactly when they agree on groups, resources and verbs,
    as lists: an axis without values differs from one with the empty value.
    The same holds of two messages for one role. Whatever the rule, its
    message stays the same under any names. -/
theorem messages_pin_axes :
    (∀ r s : Rule, r.IsUnmarked → s.IsUnmarked →
      (r.summary = s.summary ↔
        r.apiGroups = s.apiGroups ∧ r.resources = s.resources ∧ r.verbs = s.verbs)
      ∧ ∀ role : String, (Escalation.mk role r).message = (Escalation.mk role s).message ↔
        r.apiGroups = s.apiGroups ∧ r.resources = s.resources ∧ r.verbs = s.verbs)
    ∧ ∀ (role : String) (r : Rule) (names : List String),
      (Escalation.mk role { r with resourceNames := names }).message
        = (Escalation.mk role r).message := by
  constructor
  · intro r s hr hs
    refine ⟨hr.summary_eq_iff hs, ?_⟩
    intro role
    rw [message_eq_iff, hr.summary_eq_iff hs]
  · intro role r names
    exact (message_eq_iff role).mpr (summary_congr rfl rfl rfl)

/-- The theorem at rules whose groups are no value, the empty one, and the empty one twice; and at
    rules that differ in their names, which may hold brackets. -/
theorem messages_pin_axes_at_void_groups :
    let void : Rule := ⟨[], ["pods", "pods/log"], ["get", "*"], ["web"]⟩
    let core : Rule := { void with apiGroups := [""] }
    let twice : Rule := { void with apiGroups := ["", ""], resourceNames := ["] Verbs:[", ""] }
    void.IsUnmarked ∧ core.IsUnmarked ∧ twice.IsUnmarked
      ∧ void.summary ≠ core.summary
      ∧ (Escalation.mk "web" core).message ≠ (Escalation.mk "web" twice).message
      ∧ (Escalation.mk "web" { twice with resourceNames := [] }).message
        = (Escalation.mk "web" twice).message := by
  intro void core twice
  have hvoid : void.IsUnmarked := ⟨by decide, by decide, by decide⟩
  have hcore : core.IsUnmarked := ⟨by decide, by decide, by decide⟩
  have htwice : twice.IsUnmarked := ⟨by decide, by decide, by decide⟩
  obtain ⟨hpins, hnames⟩ := messages_pin_axes
  refine ⟨hvoid, hcore, htwice, ?_, ?_, hnames "web" twice []⟩
  · rw [Ne, (hpins void core hvoid hcore).1]
    decide
  · rw [Ne, (hpins core twice hcore htwice).2 "web"]
    decide

end Rule

end RoleGuard

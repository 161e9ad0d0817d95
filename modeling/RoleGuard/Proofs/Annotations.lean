import RoleGuard.Rule.Clause

/-! # What Annotations Say

    An annotation is read by its separators: commas between clauses,
    semicolons between elements. While no value of a rule holds one of them,
    the clauses of its annotation can be read off the text, and so the
    annotation determines the rule.

    Two things are lost on the way. A void axis is written like one that
    asks for the empty value. And the core group, which is the empty text,
    has a token of its own only when it is the one group of the rule: the
    token replaces the whole list of groups when nothing is written for it,
    so beside another group the core group is an empty element.
-/

namespace RoleGuard

variable {values values' : List String} {c : Clause} {r s : Rule} {marker : String}

/-! ## The values of an axis -/

theorem written_of_ne_nil (h : values ≠ []) : written values = values := by
  unfold written
  exact if_neg (by simpa using h)

theorem written_ne_nil (values : List String) : written values ≠ [] := by
  by_cases h : values = []
  · subst h
    decide
  · rwa [written_of_ne_nil h]

theorem mem_written {v : String} (hv : v ∈ written values) : v = "" ∨ v ∈ values := by
  by_cases h : values = []
  · subst h
    exact Or.inl (List.mem_singleton.mp hv)
  · rw [written_of_ne_nil h] at hv
    exact Or.inr hv

theorem joined_written (values : List String) : joined (written values) = joined values := by
  by_cases h : values = []
  · subst h
    rfl
  · rw [written_of_ne_nil h]

/-- Nothing is written for a void axis and for the empty value alone. Two
    values have a semicolon between them, even if both are empty. -/
theorem joined_eq_empty_iff : joined values = "" ↔ written values = [""] := by
  unfold joined
  match values with
  | [] => simp [written]
  | [v] => simp [written]
  | v :: w :: vs =>
    rw [written_of_ne_nil (List.cons_ne_nil _ _), String.intercalate_cons_cons]
    simp

/-! ## One clause -/

namespace Clause

theorem toList_text (c : Clause) :
    c.text.toList = c.key.toList ++ '=' :: (joined c.elements).toList := by
  unfold text
  simp

theorem Readable.comma_notMem_text (h : c.Readable) : ',' ∉ c.text.toList := by
  have helements : ',' ∉ (joined c.elements).toList :=
    Text.notMem_intercalate (by decide) fun e he => (h.elements e he).1
  rw [toList_text, List.mem_append, List.mem_cons]
  rintro (hkey | heq | hmem)
  · exact h.key.1.1 hkey
  · exact absurd heq (by decide)
  · exact helements hmem

/-- **A clause is read back from its text.** -/
theorem ofText_text (h : c.Readable) : ofText c.text = c := by
  have hpieces : Text.pieces ';' (joined c.elements) = c.elements :=
    Text.pieces_intercalate rfl (fun e he => (h.elements e he).2) h.ne_nil
  unfold ofText
  rw [toList_text, Text.takeWhile_ne_append h.key.2, Text.dropWhile_ne_append h.key.2,
    List.drop_one, List.tail_cons, String.ofList_toList, String.ofList_toList, hpieces]

/-- Clauses are read back from the text that joins them. -/
theorem listOf_intercalate {clauses : List Clause} (h : ∀ c ∈ clauses, c.Readable)
    (hne : clauses ≠ []) : listOf (",".intercalate (clauses.map text)) = clauses := by
  have hcommas : ∀ c ∈ clauses, ',' ∉ c.text.toList := by
    intro c hc
    exact (h c hc).comma_notMem_text
  have hread : ∀ c ∈ clauses, ofText c.text = c := by
    intro c hc
    exact ofText_text (h c hc)
  exact Text.map_pieces_intercalate rfl hcommas hread hne

end Clause

/-! ## The clauses of a rule -/

namespace Rule

theorem groupsClause_eq (r : Rule) : r.groupsClause = joined r.groupElements := by
  unfold groupsClause groupElements
  simp only [joined_eq_empty_iff]
  split
  · rfl
  · exact (joined_written r.apiGroups).symm

/-- An annotation is its marker, its kind and its clauses. -/
theorem annotation_eq (marker : String) (r : Rule) :
    r.annotation marker = marker ++ "rbac:" ++ r.clauseText := by
  have hgroups : "rbac:groups=" = "rbac:" ++ "groups" ++ "=" := by decide
  have hresources : ",resources=" = "," ++ "resources" ++ "=" := by decide
  have hverbs : ",verbs=" = "," ++ "verbs" ++ "=" := by decide
  have hnames : ",resourceNames=" = "," ++ "resourceNames" ++ "=" := by decide
  unfold annotation clauseText clauses nameClauses
  rw [groupsClause_eq, hgroups, hresources, hverbs, hnames]
  cases r.resourceNames.isEmpty with
  | true =>
    simp only [if_true, Clause.text, joined_written, List.cons_append, List.nil_append,
      List.map_cons, List.map_nil, String.intercalate_cons_cons, String.intercalate_singleton,
      String.append_assoc, String.append_empty]
  | false =>
    simp only [Bool.false_eq_true, if_false, Clause.text, joined_written, List.cons_append,
      List.nil_append, List.map_cons, List.map_nil, String.intercalate_cons_cons,
      String.intercalate_singleton, String.append_assoc]

/-- No value of the rule holds a separator of annotations. -/
structure IsSeparable (r : Rule) : Prop where
  /-- API groups -/
  apiGroups : ∀ v ∈ r.apiGroups, Separable v
  /-- resource types -/
  resources : ∀ v ∈ r.resources, Separable v
  /-- actions -/
  verbs : ∀ v ∈ r.verbs, Separable v
  /-- named instances -/
  resourceNames : ∀ v ∈ r.resourceNames, Separable v

theorem groupElements_ne_nil (r : Rule) : r.groupElements ≠ [] := by
  unfold groupElements
  split
  · exact List.cons_ne_nil _ _
  · exact written_ne_nil r.apiGroups

theorem mem_clauses_iff {c : Clause} :
    c ∈ r.clauses ↔ c = ⟨"groups", r.groupElements⟩ ∨ c = ⟨"resources", written r.resources⟩
      ∨ c = ⟨"verbs", written r.verbs⟩
      ∨ (r.resourceNames ≠ [] ∧ c = ⟨"resourceNames", r.resourceNames⟩) := by
  unfold clauses nameClauses
  simp only [List.mem_append, List.mem_cons, List.not_mem_nil, or_false, List.mem_ite_nil_left,
    List.isEmpty_iff, or_assoc]

theorem separable_written (h : ∀ v ∈ values, Separable v) : ∀ v ∈ written values, Separable v := by
  intro v hv
  rcases mem_written hv with rfl | hmem
  · decide
  · exact h v hmem

theorem separable_groupElements (h : ∀ v ∈ r.apiGroups, Separable v) :
    ∀ v ∈ r.groupElements, Separable v := by
  unfold groupElements
  split
  · decide
  · exact separable_written h

/-- Each clause of the annotation can be read. -/
theorem IsSeparable.readable (h : r.IsSeparable) : ∀ c ∈ r.clauses, c.Readable := by
  intro c hc
  rcases mem_clauses_iff.mp hc with rfl | rfl | rfl | ⟨hne, rfl⟩
  · exact ⟨(by decide : IsKey "groups"), r.groupElements_ne_nil,
      separable_groupElements h.apiGroups⟩
  · exact ⟨(by decide : IsKey "resources"), written_ne_nil _, separable_written h.resources⟩
  · exact ⟨(by decide : IsKey "verbs"), written_ne_nil _, separable_written h.verbs⟩
  · exact ⟨(by decide : IsKey "resourceNames"), hne, h.resourceNames⟩

/-- **The clauses are read off the annotation.** -/
theorem listOf_clauseText (h : r.IsSeparable) : Clause.listOf r.clauseText = r.clauses := by
  have hne : r.clauses ≠ [] := by
    unfold clauses
    exact List.cons_ne_nil _ _
  exact Clause.listOf_intercalate h.readable hne

end Rule

/-! ## Rules with one annotation -/

/-- The axes differ at most in how they are void: by no value, or by the empty one alone. -/
def SameUpToBlank (values values' : List String) : Prop :=
  values = values' ∨ (values = [] ∧ values' = [""]) ∨ (values = [""] ∧ values' = [])

theorem written_eq_iff : written values = written values' ↔ SameUpToBlank values values' := by
  unfold SameUpToBlank
  by_cases h : values = []
  · by_cases h' : values' = []
    · simp [h, h']
    · rw [written_of_ne_nil h']
      simp [h, h', written, eq_comm]
  · rw [written_of_ne_nil h]
    by_cases h' : values' = []
    · simp [h, h', written]
    · rw [written_of_ne_nil h']
      simp [h, h']

theorem nameClauses_inj : nameClauses values = nameClauses values' ↔ values = values' := by
  unfold nameClauses
  cases values <;> cases values' <;> simp

namespace Rule

/-- No group of the rule can be taken for the token of the core group. -/
def GroupsUnquoted (r : Rule) : Prop :=
  ∀ g ∈ r.apiGroups, Text.doubleQuote ∉ g.toList

/-- Where no group looks like it, the token tells that nothing else was written. -/
theorem written_apiGroups_eq (h : r.GroupsUnquoted) :
    written r.apiGroups
      = if r.groupElements = [coreGroupToken] then [""] else r.groupElements := by
  have htoken : written r.apiGroups ≠ [coreGroupToken] := by
    intro heq
    have hmem : coreGroupToken ∈ written r.apiGroups := by
      rw [heq]
      exact List.mem_singleton.mpr rfl
    rcases mem_written hmem with hempty | hgroup
    · exact absurd hempty (by decide)
    · exact h _ hgroup (by decide)
  by_cases hblank : written r.apiGroups = [""]
  · have helements : r.groupElements = [coreGroupToken] := if_pos hblank
    rw [if_pos helements, hblank]
  · have helements : r.groupElements = written r.apiGroups := if_neg hblank
    rw [helements, if_neg htoken]

theorem groupElements_eq_iff (hr : r.GroupsUnquoted) (hs : s.GroupsUnquoted) :
    r.groupElements = s.groupElements ↔ written r.apiGroups = written s.apiGroups := by
  constructor
  · intro h
    rw [written_apiGroups_eq hr, written_apiGroups_eq hs, h]
  · intro h
    unfold groupElements
    rw [h]

theorem clauses_eq_iff :
    r.clauses = s.clauses ↔ r.groupElements = s.groupElements
      ∧ written r.resources = written s.resources ∧ written r.verbs = written s.verbs
      ∧ r.resourceNames = s.resourceNames := by
  unfold clauses
  simp only [List.cons_append, List.nil_append, List.cons.injEq, Clause.mk.injEq, true_and,
    nameClauses_inj]

theorem annotation_eq_iff_clauses (hr : r.IsSeparable) (hs : s.IsSeparable) :
    r.annotation marker = s.annotation marker ↔ r.clauses = s.clauses := by
  rw [annotation_eq, annotation_eq, String.append_right_inj]
  constructor
  · intro h
    rw [← listOf_clauseText hr, ← listOf_clauseText hs, h]
  · intro h
    unfold clauseText
    rw [h]

/-- **An annotation determines its rule.** If no value holds a separator and
    no group holds a quotation mark, two rules have one annotation exactly
    when they ask for the same names and for the same groups, resources and
    verbs, up to the two ways in which an axis can be void. -/
theorem annotation_determines_rule (marker : String) (r s : Rule) (hr : r.IsSeparable)
    (hs : s.IsSeparable) (hrgroups : r.GroupsUnquoted) (hsgroups : s.GroupsUnquoted) :
    r.annotation marker = s.annotation marker ↔
      r.resourceNames = s.resourceNames ∧ SameUpToBlank r.apiGroups s.apiGroups
        ∧ SameUpToBlank r.resources s.resources ∧ SameUpToBlank r.verbs s.verbs := by
  rw [annotation_eq_iff_clauses hr hs, clauses_eq_iff, groupElements_eq_iff hrgroups hsgroups,
    written_eq_iff, written_eq_iff, written_eq_iff]
  constructor
  · rintro ⟨hgroups, hresources, hverbs, hnames⟩
    exact ⟨hnames, hgroups, hresources, hverbs⟩
  · rintro ⟨hnames, hgroups, hresources, hverbs⟩
    exact ⟨hgroups, hresources, hverbs, hnames⟩

/-- The theorem at two rules that differ in how the axis of groups is void, and share their
    annotation; order, repetitions and an empty name do not get in the way. -/
theorem annotation_determines_rule_at_core :
    let r : Rule := ⟨[], ["pods", "jobs", "pods"], ["get"], ["web", ""]⟩
    let s : Rule := ⟨[""], ["pods", "jobs", "pods"], ["get"], ["web", ""]⟩
    r.IsSeparable ∧ s.IsSeparable ∧ r.GroupsUnquoted ∧ s.GroupsUnquoted
      ∧ r.annotation defaultMarker = s.annotation defaultMarker := by
  intro r s
  have hr : r.IsSeparable := ⟨by decide, by decide, by decide, by decide⟩
  have hs : s.IsSeparable := ⟨by decide, by decide, by decide, by decide⟩
  have hrgroups : r.GroupsUnquoted := by
    unfold GroupsUnquoted
    decide
  have hsgroups : s.GroupsUnquoted := by
    unfold GroupsUnquoted
    decide
  refine ⟨hr, hs, hrgroups, hsgroups, ?_⟩
  rw [annotation_determines_rule defaultMarker r s hr hs hrgroups hsgroups]
  exact ⟨rfl, Or.inr (Or.inl ⟨rfl, rfl⟩), Or.inl rfl, Or.inl rfl⟩

end Rule

end RoleGuard

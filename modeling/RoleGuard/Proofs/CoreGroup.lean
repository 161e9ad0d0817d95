import RoleGuard.Proofs.Annotations

/-! # The Core Group in Annotations

    The core group is the empty text. An annotation that is to be read by
    its separators needs a token for it, and messages have one for each
    empty value. In an annotation the token is put in only when nothing at
    all would be written for the groups. So every element of an annotation
    is a token as long as the core group is asked for alone or not at all;
    beside another group it is left blank.
-/

namespace RoleGuard

variable {marker : String} {r : Rule} {values : List String}

/-! ## Tokens -/

theorem map_groupToken (h : "" ∉ values) : values.map groupToken = values := by
  have hself : ∀ v ∈ values, groupToken v = v := by
    intro v hv
    exact if_neg (ne_of_mem_of_not_mem hv h)
  calc values.map groupToken
      = values.map id := List.map_congr_left hself
    _ = values := List.map_id values

/-- Each element of each clause is a token. -/
def WellFormed (clauses : List Clause) : Prop :=
  ∀ c ∈ clauses, "" ∉ c.elements

instance (clauses : List Clause) : Decidable (WellFormed clauses) :=
  inferInstanceAs (Decidable (∀ c ∈ clauses, "" ∉ c.elements))

namespace Rule

/-- The rule asks for something on each axis, and for the empty text at most among its groups,
    where it is the core group. -/
structure IsFilled (r : Rule) : Prop extends AsksOnEachAxis r where
  /-- no resource type is empty -/
  noBlankResource : "" ∉ r.resources
  /-- no action is -/
  noBlankVerb : "" ∉ r.verbs
  /-- no name is -/
  noBlankName : "" ∉ r.resourceNames

/-- The core group is asked for alone, or not at all. -/
def CoreStandsAlone (r : Rule) : Prop :=
  r.apiGroups = [""] ∨ "" ∉ r.apiGroups

theorem IsFilled.groupElements_eq (h : r.IsFilled) :
    r.groupElements = if r.apiGroups = [""] then [coreGroupToken] else r.apiGroups := by
  unfold groupElements
  rw [written_of_ne_nil h.apiGroups]

/-- The clauses of such a rule hold its values as they are, the groups apart. -/
theorem IsFilled.clauses_eq (h : r.IsFilled) :
    r.clauses = [⟨"groups", r.groupElements⟩, ⟨"resources", r.resources⟩, ⟨"verbs", r.verbs⟩]
      ++ nameClauses r.resourceNames := by
  unfold clauses
  rw [written_of_ne_nil h.resources, written_of_ne_nil h.verbs]

/-- What is written for the groups is blank nowhere exactly when the core group has no company. -/
theorem IsFilled.empty_notMem_groupElements_iff (h : r.IsFilled) :
    "" ∉ r.groupElements ↔ r.CoreStandsAlone := by
  unfold CoreStandsAlone
  rw [h.groupElements_eq]
  by_cases halone : r.apiGroups = [""]
  · rw [if_pos halone]
    exact ⟨fun _ => Or.inl halone, fun _ => by decide⟩
  · rw [if_neg halone, or_iff_right halone]

theorem IsFilled.wellFormed_clauses_iff (h : r.IsFilled) :
    WellFormed r.clauses ↔ r.CoreStandsAlone := by
  rw [← h.empty_notMem_groupElements_iff]
  constructor
  · intro hclauses
    exact hclauses _ (mem_clauses_iff.mpr (Or.inl rfl))
  · intro hgroups c hc
    rcases mem_clauses_iff.mp hc with rfl | rfl | rfl | ⟨-, rfl⟩
    · exact hgroups
    · show "" ∉ written r.resources
      rw [written_of_ne_nil h.resources]
      exact h.noBlankResource
    · show "" ∉ written r.verbs
      rw [written_of_ne_nil h.verbs]
      exact h.noBlankVerb
    · exact h.noBlankName

/-- The groups are written as messages show them exactly when the core group has no company. -/
theorem IsFilled.groupElements_eq_map_iff (h : r.IsFilled) :
    r.groupElements = r.apiGroups.map groupToken ↔ r.CoreStandsAlone := by
  constructor
  · intro hmap
    rw [← h.empty_notMem_groupElements_iff, hmap]
    intro hmem
    obtain ⟨g, -, hg⟩ := List.mem_map.mp hmem
    exact groupToken_ne_empty g hg
  · rw [h.groupElements_eq]
    rintro (halone | hnone)
    · rw [if_pos halone, halone]
      rfl
    · have halone : r.apiGroups ≠ [""] := by
        intro heq
        rw [heq] at hnone
        exact hnone (List.mem_singleton.mpr rfl)
      rw [if_neg halone, map_groupToken hnone]

/-! ## Main theorem -/

/-- **The core group is written as a token when it stands alone.** Behind
    its marker the annotation of a filled rule without separators is read as
    one clause for each axis, in order, with the values of the rule as its
    elements. All elements are tokens, and the groups are written as
    messages show them, exactly when the core group is not asked for beside
    another group. -/
theorem tokens_unless_core_has_company (marker : String) (r : Rule) (hr : r.IsSeparable)
    (h : r.IsFilled) :
    ∃ body, r.annotation marker = marker ++ "rbac:" ++ body
      ∧ Clause.listOf body
        = [⟨"groups", if r.apiGroups = [""] then [coreGroupToken] else r.apiGroups⟩,
            ⟨"resources", r.resources⟩, ⟨"verbs", r.verbs⟩] ++ nameClauses r.resourceNames
      ∧ (WellFormed (Clause.listOf body) ↔ r.CoreStandsAlone)
      ∧ bracket r.apiGroups = "[" ++ " ".intercalate (r.apiGroups.map groupToken) ++ "]"
      ∧ ((Clause.listOf body).head? = some ⟨"groups", r.apiGroups.map groupToken⟩
        ↔ r.CoreStandsAlone) := by
  refine ⟨r.clauseText, annotation_eq marker r, ?_, ?_, bracket_eq r.apiGroups, ?_⟩
  · rw [listOf_clauseText hr, h.clauses_eq, h.groupElements_eq]
  · rw [listOf_clauseText hr]
    exact h.wellFormed_clauses_iff
  · rw [listOf_clauseText hr, h.clauses_eq, ← h.groupElements_eq_map_iff]
    simp

/-- The theorem at a rule for the core group alone, and for a name. -/
theorem tokens_unless_core_has_company_at_token :
    let r : Rule := ⟨[""], ["serviceaccounts/token"], ["create"], ["web"]⟩
    r.IsSeparable ∧ r.IsFilled ∧ r.CoreStandsAlone
      ∧ ∃ body, r.annotation defaultMarker = defaultMarker ++ "rbac:" ++ body
        ∧ WellFormed (Clause.listOf body) := by
  intro r
  have hr : r.IsSeparable := ⟨by decide, by decide, by decide, by decide⟩
  have h : r.IsFilled :=
    ⟨⟨by decide, by decide, by decide⟩, by decide, by decide, by decide⟩
  have halone : r.CoreStandsAlone := Or.inl rfl
  obtain ⟨body, hbody, -, hwell, -⟩ := tokens_unless_core_has_company defaultMarker r hr h
  exact ⟨hr, h, halone, body, hbody, hwell.mpr halone⟩

/-- The core group beside another one: no text behind the marker is read as tokens. -/
theorem core_beside_apps_is_left_blank :
    let r : Rule := ⟨["", "apps"], ["deployments"], ["get"], []⟩
    r.IsSeparable ∧ r.IsFilled
      ∧ r.annotation "" = "rbac:groups=;apps,resources=deployments,verbs=get"
      ∧ ¬ ∃ body, r.annotation "" = "" ++ "rbac:" ++ body ∧ WellFormed (Clause.listOf body) := by
  intro r
  have hr : r.IsSeparable := ⟨by decide, by decide, by decide, by decide⟩
  have h : r.IsFilled :=
    ⟨⟨by decide, by decide, by decide⟩, by decide, by decide, by decide⟩
  refine ⟨hr, h, by decide, ?_⟩
  rintro ⟨body, hbody, hwell⟩
  have htext : body = r.clauseText := by
    rw [annotation_eq, String.append_right_inj] at hbody
    exact hbody.symm
  have hcompany : ¬ r.CoreStandsAlone := by
    unfold CoreStandsAlone
    decide
  rw [htext, listOf_clauseText hr, h.wellFormed_clauses_iff] at hwell
  exact hcompany hwell

end Rule

end RoleGuard

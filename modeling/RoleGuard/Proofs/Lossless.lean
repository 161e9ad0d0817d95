import RoleGuard.Proofs.Json
import RoleGuard.Proofs.Reading
import RoleGuard.Report.Reader

/-! # Reports Are Read Back As They Were

    The document of a report has totals that the reader ignores, and its
    rules go by other names than their fields. What is read depends only on
    the fields that the reader looks at, and these hold the whole report:

    * **Round trip**: the document of a report is read back as the report,
      with every list in its order and every axis of every rule.
    * **Injectivity**: different reports have different documents, and are
      printed as different texts.
-/

namespace RoleGuard

/-! ## Fields and lists of texts -/

namespace Schema

variable {α : Type} {read : List Step → Value → Checked α} {default : α}
  {location : List Step} {name : String} {entries : List (Value × Value)} {v : Value}

theorem required_of_lookup (h : Value.lookup name entries = some v) :
    required read location name entries = read (location ++ [.field name]) v := by
  unfold required
  rw [h]

theorem defaulted_of_lookup (h : Value.lookup name entries = some v) :
    defaulted default read location name entries = read (location ++ [.field name]) v := by
  unfold defaulted
  rw [h]

end Schema

theorem readTexts_texts (location : List Step) (xs : List String) :
    readTexts location (.texts xs) = .ok xs :=
  Schema.items_texts .list location xs

/-! ## Findings -/

namespace Finding

/-- Each field of the finding stands under its name, whatever else is there. -/
structure Written (f : Finding) (entries : List (Value × Value)) : Prop where
  /-- the name of the role -/
  role : Value.lookup "role" entries = some (.text f.role)
  /-- the wording of the escalation -/
  error : Value.lookup "error" entries = some (.text f.error)
  /-- the mappings of the missing rules -/
  missing : Value.lookup "missing" entries = some (.list (f.missing.map Rule.toValue))
  /-- the annotations -/
  suggestions : Value.lookup "suggestions" entries = some (.texts f.suggestions)

theorem readAt_of_written {f : Finding} {entries : List (Value × Value)}
    (h : f.Written entries) (location : List Step) :
    readAt location (.map entries) = .ok f := by
  have hrules (at_ : List Step) :
      Schema.items .list Rule.readAt at_ (.list (f.missing.map Rule.toValue)) = .ok f.missing :=
    Schema.items_map .list Rule.toValue Rule.readAt_toValue at_ f.missing
  rw [readAt, Schema.required_of_lookup h.role, Schema.required_of_lookup h.error,
    Schema.defaulted_of_lookup h.missing, Schema.defaulted_of_lookup h.suggestions,
    hrules, readTexts_texts]
  rfl

theorem toValue_written (f : Finding) :
    ∃ entries, f.toValue = .map entries ∧ f.Written entries := by
  refine ⟨_, rfl, ?_, ?_, ?_, ?_⟩
  · simp [Value.lookup]
  · simp [Value.lookup]
  · simp [Value.lookup]
  · simp [Value.lookup]

/-- A finding is read back from its mapping, at any place of a document. -/
theorem readAt_toValue (location : List Step) (f : Finding) :
    readAt location f.toValue = .ok f := by
  obtain ⟨entries, hmap, hwritten⟩ := f.toValue_written
  rw [hmap]
  exact readAt_of_written hwritten location

end Finding

/-! ## Reports -/

namespace Report

/-- Both fields of the report stand under their names. The totals are no
    fields, so nothing is asked of them. -/
structure Written (r : Report) (entries : List (Value × Value)) : Prop where
  /-- the names of the checked roles -/
  checked : Value.lookup "checked" entries = some (.texts r.checked)
  /-- the mappings of the findings -/
  findings : Value.lookup "findings" entries = some (.list (r.findings.map Finding.toValue))

theorem ofValue?_of_written {r : Report} {entries : List (Value × Value)}
    (h : r.Written entries) : ofValue? (.map entries) = .ok r := by
  have hfindings (at_ : List Step) :
      Schema.items .list Finding.readAt at_ (.list (r.findings.map Finding.toValue))
        = .ok r.findings :=
    Schema.items_map .list Finding.toValue Finding.readAt_toValue at_ r.findings
  rw [ofValue?, readFields, Schema.defaulted_of_lookup h.checked,
    Schema.defaulted_of_lookup h.findings, readTexts_texts, hfindings]
  rfl

theorem toValue_written (r : Report) : ∃ entries, r.toValue = .map entries ∧ r.Written entries := by
  refine ⟨_, rfl, ?_, ?_⟩
  · simp [Value.lookup]
  · simp [Value.lookup]

/-- **A report is read back from its document.** -/
theorem ofValue?_toValue (r : Report) : ofValue? r.toValue = .ok r := by
  obtain ⟨entries, hmap, hwritten⟩ := r.toValue_written
  rw [hmap]
  exact ofValue?_of_written hwritten

theorem toValue_injective : Function.Injective toValue := by
  intro r s h
  have hread : Except.ok r = Except.ok (ε := Rejection) s :=
    (ofValue?_toValue r).symm.trans ((congrArg ofValue? h).trans (ofValue?_toValue s))
  exact Except.ok.inj hread

theorem json_injective : Function.Injective fun r : Report => r.toValue.json := by
  intro r s h
  exact toValue_injective (Value.json_inj r.plain_toValue s.plain_toValue h)

/-! ## Main theorem -/

/-- **Reports are written without loss.** The document of a report is read
    back as that report: the same names of roles, and the same findings with
    role, wording, missing rules and suggestions, in order. So the report
    that was read has the same document and the same text, and neither two
    documents nor two printed documents of different reports are the same. -/
theorem writing_is_lossless :
    (∀ r : Report, ofValue? r.toValue = .ok r)
    ∧ Function.Injective toValue
    ∧ (∀ r : Report, (ofValue? r.toValue).map toValue = .ok r.toValue
        ∧ (ofValue? r.toValue).map text = .ok r.text)
    ∧ Function.Injective fun r : Report => r.toValue.json := by
  refine ⟨ofValue?_toValue, toValue_injective, ?_, json_injective⟩
  intro r
  rw [ofValue?_toValue]
  exact ⟨rfl, rfl⟩

end Report

end RoleGuard

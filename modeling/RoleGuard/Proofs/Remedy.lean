import RoleGuard.Proofs.Grantor
import RoleGuard.Proofs.Reading

/-! # Remedies

    Rules that are added to those of a grantor have to cover exactly what
    was missing before: a remedy is judged by the missing rules alone, in
    whatever role they were found. The rules that a report lists are such a
    remedy themselves, also after they were written to a document and read
    back from it.
-/

namespace RoleGuard

namespace Grantor

variable {g s : Grantor} {q : Request} {r : Rule}

/-! ## More rules -/

/-- The grantor with further rules behind its own. -/
def extend (g : Grantor) (rules : List Rule) : Grantor :=
  { g with granted := g.granted ++ rules }

theorem canGrant_extend (g s : Grantor) (r : Rule) :
    (g.extend s.granted).canGrant r = (g.canGrant r || s.canGrant r) := by
  unfold extend canGrant
  exact List.any_append

/-- The rules still missing after an addition are those that the addition
    misses among the rules that were missing before. -/
theorem missing_extend (g s : Grantor) (q : Request) :
    (g.extend s.granted).missing q = s.missing { q with rules := g.missing q } := by
  unfold missing
  rw [List.filter_filter]
  apply List.filter_congr
  intro r _
  rw [canGrant_extend, Bool.not_or, Bool.and_comm]

theorem check_extend_eq_none_iff :
    (g.extend s.granted).check q = none ↔ ∀ r ∈ g.missing q, s.canGrant r = true := by
  rw [check_eq_none_iff_missing, missing_extend, missing_eq_nil_iff]

/-! ## The missing rules of a report -/

/-- The findings of a report list the missing rules of all requests. -/
theorem exists_finding_missing {qs : List Request} :
    (∃ f ∈ (g.report qs).findings, r ∈ f.missing) ↔ ∃ q ∈ qs, r ∈ g.missing q := by
  constructor
  · rintro ⟨f, hf, hr⟩
    obtain ⟨q, hq, hfinding⟩ := mem_report_findings.mp hf
    obtain ⟨e, _, rfl⟩ := finding?_eq_some_iff.mp hfinding
    exact ⟨q, hq, hr⟩
  · rintro ⟨q, hq, hr⟩
    -- a request with a missing rule does not pass, so there is a finding about it
    have hcheck : g.check q ≠ none := by
      rw [Ne, check_eq_none_iff_missing]
      exact List.ne_nil_of_mem hr
    obtain ⟨e, he⟩ := Option.ne_none_iff_exists'.mp hcheck
    exact ⟨g.findingAt q e, mem_report_findings.mpr ⟨q, hq, finding?_of_check he⟩, hr⟩

theorem report_extend_ok_iff (g s : Grantor) (qs : List Request) :
    ((g.extend s.granted).report qs).ok = true
      ↔ ∀ f ∈ (g.report qs).findings, ∀ r ∈ f.missing, s.canGrant r = true := by
  rw [report_ok_iff]
  constructor
  · intro hpass f hf r hr
    obtain ⟨q, hq, hmissing⟩ := exists_finding_missing.mp ⟨f, hf, hr⟩
    exact check_extend_eq_none_iff.mp (hpass q hq) r hmissing
  · intro hcov q hq
    rw [check_extend_eq_none_iff]
    intro r hr
    obtain ⟨f, hf, hmissing⟩ := exists_finding_missing.mpr ⟨q, hq, hr⟩
    exact hcov f hf r hmissing

end Grantor

/-! ## The missing rules of a document -/

/-- The items of the list under a key, if there is a list. -/
def Value.listAt? (key : String) (v : Value) : Option (List Value) :=
  match v.field? key with
  | some (.list items) => some items
  | _ => none

/-- The mappings of missing rules in the document of a report, finding by finding. -/
def Report.missingMappings (document : Value) : Option (List Value) := do
  let findings ← document.listAt? "findings"
  let mappings ← findings.mapM (Value.listAt? "missing")
  return mappings.flatten

theorem Finding.listAt?_missing (f : Finding) :
    f.toValue.listAt? "missing" = some (f.missing.map Rule.toValue) := by
  simp [Finding.toValue, Value.listAt?, Value.field?, Value.record, Value.lookup]

theorem Report.listAt?_findings (r : Report) :
    r.toValue.listAt? "findings" = some (r.findings.map Finding.toValue) := by
  simp [Report.toValue, Value.listAt?, Value.field?, Value.record, Value.lookup]

theorem Finding.mapM_listAt?_missing (findings : List Finding) :
    (findings.map Finding.toValue).mapM (Value.listAt? "missing")
      = some (findings.map fun f => f.missing.map Rule.toValue) := by
  have hcomp : Value.listAt? "missing" ∘ toValue
      = fun f => (pure (f.missing.map Rule.toValue) : Option (List Value)) :=
    funext Finding.listAt?_missing
  rw [List.mapM_map, hcomp, List.mapM_pure]
  rfl

/-- The document of a report holds the mapping of each missing rule, in order. -/
theorem Report.missingMappings_toValue (r : Report) :
    missingMappings r.toValue = some ((r.findings.flatMap Finding.missing).map Rule.toValue) := by
  have hflat : (r.findings.map fun f => f.missing.map Rule.toValue).flatten
      = (r.findings.flatMap Finding.missing).map Rule.toValue := by
    rw [List.map_flatMap, List.flatMap_def]
  unfold missingMappings
  rw [r.listAt?_findings, ← hflat]
  show ((r.findings.map Finding.toValue).mapM (Value.listAt? "missing")).bind _ = _
  rw [Finding.mapM_listAt?_missing]
  rfl

namespace Grantor

/-- The rules that a report lists as missing are a remedy. -/
theorem report_extend_missing_ok (g : Grantor) (qs : List Request) :
    ((g.extend ((g.report qs).findings.flatMap Finding.missing)).report qs).ok = true := by
  let s : Grantor := { g with granted := (g.report qs).findings.flatMap Finding.missing }
  apply (report_extend_ok_iff g s qs).mpr
  intro f hf r hr
  exact canGrant_of_mem (List.mem_flatMap.mpr ⟨f, hf, hr⟩)

/-! ## Main theorem -/

/-- **Missing rules are exactly what has to be added.** What is missing
    after an addition is what the addition misses of the missing rules; so
    an addition makes a report fine when it can grant every rule that the
    report lists as missing. Those rules can always be read back from the
    document of the report, and adding them makes every role pass. -/
theorem missing_is_what_to_add (g s : Grantor) :
    (∀ q, (g.extend s.granted).missing q = s.missing { q with rules := g.missing q })
    ∧ (∀ qs, ((g.extend s.granted).report qs).ok = true
        ↔ ∀ f ∈ (g.report qs).findings, ∀ r ∈ f.missing, s.canGrant r = true)
    ∧ ∀ qs, ∃ mappings rules,
        Report.missingMappings (g.report qs).toValue = some mappings
        ∧ mappings.mapM Rule.ofValue? = .ok rules
        ∧ rules = (g.report qs).findings.flatMap Finding.missing
        ∧ ((g.extend rules).report qs).ok = true
        ∧ ∀ q ∈ qs, (g.extend rules).check q = none := by
  refine ⟨missing_extend g s, report_extend_ok_iff g s, ?_⟩
  intro qs
  have hok := g.report_extend_missing_ok qs
  exact ⟨_, _, (g.report qs).missingMappings_toValue, Rule.mapM_ofValue?_toValue _, rfl, hok,
    report_ok_iff.mp hok⟩

end Grantor

end RoleGuard

import RoleGuard.Error
import RoleGuard.Proofs.Grantor
import RoleGuard.Proofs.Reading

/-! # Agreement of the Answers

    The first error, the list of missing rules, the creation that fails, the
    list of errors and the report are computed by separate loops. They agree:

    * about one request, they succeed together or point at one rule, the
      first that no held rule covers;
    * about many requests, errors and findings stand side by side, one of
      each for every request that fails, in the order of the requests.
-/

namespace RoleGuard

/-- Two reports one after the other. -/
def Report.append (r s : Report) : Report :=
  ⟨r.checked ++ s.checked, r.findings ++ s.findings⟩

namespace Grantor

variable {g : Grantor} {q : Request} {e : Escalation}

/-! ## One request -/

/-- `r` is the first of the rules that no held rule covers. -/
def FirstUncovered (held rules : List Rule) (r : Rule) : Prop :=
  ∃ before after, rules = before ++ r :: after
    ∧ (∀ p ∈ before, ∃ h ∈ held, h.covers p = true) ∧ ∀ h ∈ held, h.covers r = false

/-- All answers about the request point at the rule of the error. -/
structure PointsAt (g : Grantor) (q : Request) (e : Escalation) : Prop where
  /-- the error names the role -/
  role : e.role = q.name
  /-- the creation of the role fails with the error -/
  validate : g.validate q = .error e
  /-- the rule is the first missing one -/
  head : (g.missing q).head? = some e.rule
  /-- the rule is the first uncovered one -/
  first : FirstUncovered g.granted q.rules e.rule
  /-- the rule can be read back from the details of the error -/
  details : ∃ mapping,
    ((Error.escalation e).toValue.field? "details").bind (Value.field? "rule") = some mapping
      ∧ Rule.ofValue? mapping = .ok e.rule

theorem firstUncovered_of_check (he : g.check q = some e) :
    FirstUncovered g.granted q.rules e.rule := by
  have hfind : q.rules.find? (fun r => !g.canGrant r) = some e.rule := by
    have hhead := (check_eq_some_iff.mp he).2
    unfold missing at hhead
    rwa [List.head?_filter] at hhead
  obtain ⟨hmiss, before, after, hsplit, hbefore⟩ := List.find?_eq_some_iff_append.mp hfind
  refine ⟨before, after, hsplit, ?_, ?_⟩
  · intro p hp
    have hgrant : g.canGrant p = true := by simpa using hbefore p hp
    exact canGrant_iff.mp hgrant
  · have hgrant : g.canGrant e.rule = false := by simpa using hmiss
    exact canGrant_eq_false_iff.mp hgrant

theorem details_rule (e : Escalation) :
    ((Error.escalation e).toValue.field? "details").bind (Value.field? "rule")
      = some e.rule.toValue := by
  simp [Error.toValue, Error.details, Value.field?, Value.record, Value.lookup]

theorem pointsAt_of_check (he : g.check q = some e) : PointsAt g q e where
  role := (check_eq_some_iff.mp he).1
  validate := validate_eq_error_iff.mpr he
  head := (check_eq_some_iff.mp he).2
  first := firstUncovered_of_check he
  details := ⟨e.rule.toValue, details_rule e, e.rule.ofValue?_toValue⟩

/-! ## Many requests -/

/-- The error and the finding tell of the same failure of the request. -/
structure Explains (g : Grantor) (q : Request) (e : Escalation) (f : Finding) : Prop where
  /-- the error is the one that the request meets -/
  check : g.check q = some e
  /-- both name the same role -/
  role : f.role = e.role
  /-- the finding has the wording of the error -/
  error : f.error = e.message
  /-- the finding lists all missing rules of the request -/
  missing : f.missing = g.missing q
  /-- there is such a rule -/
  missing_ne_nil : f.missing ≠ []
  /-- each of them is suggested, in order, with the marker of the grantor -/
  suggestions : f.suggestions = f.missing.map (Rule.annotation g.marker)

theorem explains_of_check (he : g.check q = some e) :
    Explains g q e (g.findingAt q e) where
  check := he
  role := (check_eq_some_iff.mp he).1.symm
  error := rfl
  missing := rfl
  missing_ne_nil := by
    intro hnil
    have hnone : g.check q = none := check_eq_none_iff_missing.mpr hnil
    rw [he] at hnone
    cases hnone
  suggestions := rfl

/-- The failing requests, their errors and their findings are the three
    columns of one list of failures. -/
theorem exists_failures (g : Grantor) (qs : List Request) :
    ∃ failures : List (Request × Escalation × Finding),
      failures.map (fun t => t.1) = qs.filter (fun q => (g.check q).isSome)
      ∧ failures.map (fun t => t.2.1) = g.checkAll qs
      ∧ failures.map (fun t => t.2.2) = (g.report qs).findings
      ∧ ∀ t ∈ failures, Explains g t.1 t.2.1 t.2.2 := by
  induction qs with
  | nil => exact ⟨[], rfl, rfl, rfl, by simp⟩
  | cons q qs ih =>
    obtain ⟨failures, hrequests, herrors, hfindings, hexplains⟩ := ih
    unfold checkAll at herrors ⊢
    unfold report at hfindings ⊢
    cases hc : g.check q with
    | none =>
      have hf : g.finding? q = none := finding?_eq_none_iff.mpr hc
      refine ⟨failures, ?_, ?_, ?_, hexplains⟩
      · simpa [hc] using hrequests
      · simpa [hc] using herrors
      · simpa [hf] using hfindings
    | some e =>
      have hf : g.finding? q = some (g.findingAt q e) := finding?_of_check hc
      refine ⟨(q, e, g.findingAt q e) :: failures, ?_, ?_, ?_, ?_⟩
      · simpa [hc] using hrequests
      · simpa [hc] using herrors
      · simpa [hf] using hfindings
      · intro t ht
        rcases List.mem_cons.mp ht with rfl | hrest
        · exact explains_of_check hc
        · exact hexplains t hrest

theorem length_findings (g : Grantor) (qs : List Request) :
    (g.report qs).findings.length = (g.checkAll qs).length := by
  obtain ⟨failures, _, herrors, hfindings, _⟩ := g.exists_failures qs
  rw [← herrors, ← hfindings, List.length_map, List.length_map]

theorem report_ok_iff_checkAll {qs : List Request} :
    (g.report qs).ok = true ↔ g.checkAll qs = [] :=
  report_ok_iff.trans checkAll_eq_nil_iff.symm

theorem report_append (g : Grantor) (qs rs : List Request) :
    g.report (qs ++ rs) = (g.report qs).append (g.report rs) := by
  unfold report Report.append
  rw [List.map_append, List.filterMap_append]

theorem checkAll_append (g : Grantor) (qs rs : List Request) :
    g.checkAll (qs ++ rs) = g.checkAll qs ++ g.checkAll rs := by
  unfold checkAll
  exact List.filterMap_append

/-! ## Main theorem -/

/-- **The answers agree.** About one request they succeed together, or they
    all point at one rule. About many requests, errors and findings are in
    one-to-one correspondence, in the order of the requests that fail; all
    requests are listed as checked, and the report is fine when there are no
    errors. Concatenated requests have concatenated answers. -/
theorem answers_agree (g : Grantor) :
    (∀ q, (g.check q = none ↔ g.missing q = []) ∧ (g.check q = none ↔ g.validate q = .ok ()))
    ∧ (∀ q e, g.check q = some e → PointsAt g q e)
    ∧ (∀ qs, (g.report qs).findings.length = (g.checkAll qs).length
      ∧ ∃ failures : List (Request × Escalation × Finding),
        failures.map (fun t => t.1) = qs.filter (fun q => (g.check q).isSome)
        ∧ failures.map (fun t => t.2.1) = g.checkAll qs
        ∧ failures.map (fun t => t.2.2) = (g.report qs).findings
        ∧ ∀ t ∈ failures, Explains g t.1 t.2.1 t.2.2)
    ∧ (∀ qs, (g.report qs).checked = qs.map Request.name)
    ∧ (∀ qs, (g.report qs).ok = true ↔ g.checkAll qs = [])
    ∧ ∀ qs rs, g.report (qs ++ rs) = (g.report qs).append (g.report rs)
      ∧ g.checkAll (qs ++ rs) = g.checkAll qs ++ g.checkAll rs := by
  refine ⟨?_, ?_, ?_, ?_, ?_, ?_⟩
  · intro q
    exact ⟨check_eq_none_iff_missing, validate_eq_ok_iff.symm⟩
  · intro q e he
    exact pointsAt_of_check he
  · intro qs
    exact ⟨g.length_findings qs, g.exists_failures qs⟩
  · intro qs
    rfl
  · intro qs
    exact report_ok_iff_checkAll
  · intro qs rs
    exact ⟨g.report_append qs rs, g.checkAll_append qs rs⟩

end Grantor

end RoleGuard

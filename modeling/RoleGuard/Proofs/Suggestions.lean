import RoleGuard.Proofs.Arguments
import RoleGuard.Proofs.Json
import RoleGuard.Proofs.Printing
import RoleGuard.Proofs.Remedy
import RoleGuard.Proofs.Running

/-! # Suggestions and Validations

    What is missing for one role can be asked in three ways: for the
    annotations alone, for a report as a document and for a report as text.
    The three outputs are made by different code, from the same missing
    rules and the same marker.
-/

namespace RoleGuard

namespace Grantor

variable {g : Grantor} {q : Request}

/-- A report on one role has at most one finding. -/
theorem report_singleton (g : Grantor) (q : Request) :
    (g.report [q]).findings = (g.finding? q).toList := by
  unfold report
  cases hf : g.finding? q <;> simp [hf]

theorem suggest_eq_nil_iff : g.suggest (g.missing q) = [] ↔ g.check q = none := by
  unfold suggest
  rw [List.map_eq_nil_iff, check_eq_none_iff_missing]

/-- The suggestions of a report on one role are those for its missing rules. -/
theorem suggestions_report_singleton (g : Grantor) (q : Request) :
    (g.report [q]).findings.flatMap Finding.suggestions = g.suggest (g.missing q) := by
  rw [report_singleton]
  cases hc : g.check q with
  | none => rw [finding?_eq_none_iff.mpr hc, suggest_eq_nil_iff.mpr hc]; rfl
  | some e => rw [finding?_of_check hc]; exact List.append_nil _

end Grantor

namespace CommandLine

variable {env : Environment} {host : Host} {time : String} {a : Arguments} {s : Settings}
  {g : Grantor} {q : Request} {qs : List Request} {f : String} {ss : List String}

theorem lines_eq_empty_iff : lines ss = "" ↔ ss = [] := by
  constructor
  · intro hlines
    cases ss with
    | nil => rfl
    | cons s ss =>
      rw [lines_cons] at hlines
      have hchars := congrArg String.toList hlines
      simp at hchars
  · rintro rfl
    rfl

/-! ## Three outputs -/

/-- The document has one finding, with the suggestions; or none, when there are none. -/
def Lists (document : Value) (suggestions : List String) : Prop :=
  (document.listAt? "findings" = some [] ∧ suggestions = [])
    ∨ ∃ finding, document.listAt? "findings" = some [finding]
        ∧ finding.field? "suggestions" = some (.texts suggestions) ∧ suggestions ≠ []

/-- The outputs about a role agree: of the command that suggests, of the validation that prints
    a document, and of the one that prints text. -/
structure Agree (suggested reported printed : Output) (marker : String) (q : Request)
    (document : Value) (suggestions : List String) : Prop where
  /-- the document is what is printed -/
  prints_document : Prints reported.stdout document
  /-- it lists the suggestions -/
  lists : Lists document suggestions
  /-- they are suggested one a line -/
  prints_suggestions : suggested.stdout = lines suggestions
  /-- nothing is suggested when nothing is found -/
  empty : suggested.stdout = "" ↔ document.listAt? "findings" = some []
  /-- and nothing is found when the validation passes -/
  passes : document.listAt? "findings" = some [] ↔ reported.exit.code = 0
  /-- whatever it prints -/
  same_exit : printed.exit = reported.exit
  /-- the text says to add the suggestions, if it can be read line by line -/
  prints_remedies : OneLine marker → q.IsOneLine →
    remediesOf printed.stdout = suggestions.map ("  Add: " ++ ·)

theorem lists_toValue (g : Grantor) (q : Request) :
    Lists (g.report [q]).toValue (g.suggest (g.missing q)) := by
  unfold Lists
  rw [Report.listAt?_findings, Grantor.report_singleton]
  cases hc : g.check q with
  | none =>
    left
    rw [Grantor.finding?_eq_none_iff.mpr hc]
    exact ⟨rfl, Grantor.suggest_eq_nil_iff.mpr hc⟩
  | some e =>
    right
    rw [Grantor.finding?_of_check hc]
    refine ⟨_, rfl, rfl, ?_⟩
    rw [Ne, Grantor.suggest_eq_nil_iff, hc]
    exact Option.some_ne_none e

theorem Lists.eq_nil_iff {document : Value} (h : Lists document ss) :
    document.listAt? "findings" = some [] ↔ ss = [] := by
  rcases h with ⟨hfindings, hnil⟩ | ⟨finding, hfindings, _, hne⟩
  · exact ⟨fun _ => hnil, fun _ => hfindings⟩
  · rw [hfindings]
    simp [hne]

theorem agree_of_outcome {suggested reported printed : Output}
    (hsuggested : suggested.stdout = (outcome s g [q] (.suggest f)).2)
    (hreported : reported.exit = (outcome s g [q] (.validate [f] .json)).1
      ∧ reported.stdout = (outcome s g [q] (.validate [f] .json)).2)
    (hprinted : printed.exit = (outcome s g [q] (.validate [f] .text)).1
      ∧ printed.stdout = (outcome s g [q] (.validate [f] .text)).2) :
    Agree suggested reported printed g.marker q (g.report [q]).toValue
      (g.suggest (g.missing q)) := by
  have hlists := lists_toValue g q
  have hlines : suggested.stdout = lines (g.suggest (g.missing q)) := by
    rw [hsuggested]
    simp [outcome]
  have hdocument : Prints reported.stdout (g.report [q]).toValue := by
    rw [hreported.2]
    exact (g.report [q]).prints
  refine ⟨hdocument, hlists, hlines, ?_, ?_, hprinted.1.trans hreported.1.symm, ?_⟩
  · rw [hlines, lines_eq_empty_iff, hlists.eq_nil_iff]
  · rw [hlists.eq_nil_iff, Grantor.suggest_eq_nil_iff, hreported.1]
    have hok : (g.report [q]).ok = true ↔ g.check q = none := by
      simp [Grantor.report_ok_iff]
    rw [outcome_code_eq_zero_iff, hok]
  · intro hmarker hq
    have hfindings : ∀ f ∈ (g.report [q]).findings, f.IsOneLine := by
      intro f hf
      obtain ⟨p, hp, hfinding⟩ := Grantor.mem_report_findings.mp hf
      obtain rfl := List.mem_singleton.mp hp
      obtain ⟨e, he, rfl⟩ := Grantor.finding?_eq_some_iff.mp hfinding
      exact Grantor.isOneLine_findingAt hmarker hq he
    rw [hprinted.2, ← Grantor.suggestions_report_singleton]
    exact remediesOf_text hfindings

/-! ## Runs -/

/-- What is loaded for suggestions is loaded for a validation of the same role. -/
theorem Loaded.validate (h : Loaded env host (a.asking (.suggest f)) s g qs) (format : Format) :
    Loaded env host (a.asking (.validate [f] format)) s g qs where
  settings := h.settings
  operator := h.operator
  roles := (rolesOf_singleton host s f format).trans h.roles

/-- The runs of the command that suggests, of the validation that prints a document, and of the
    one that prints text return, and their outputs agree. -/
def RunsAgree (env : Environment) (host : Host) (time : String)
    (suggest report print : List String) (marker : String) (q : Request) : Prop :=
  ∃ suggested reported printed document suggestions,
    run env host time suggest = .ok suggested
    ∧ run env host time report = .ok reported
    ∧ run env host time print = .ok printed
    ∧ Agree suggested reported printed marker q document suggestions

theorem runsAgree_of_loaded {suggest report print : List String}
    (hsuggest : read suggest = .ok (a.asking (.suggest f)))
    (hreport : read report = .ok (a.asking (.validate [f] .json)))
    (hprint : read print = .ok (a.asking (.validate [f] .text)))
    (h : Loaded env host (a.asking (.suggest f)) s g [q]) :
    RunsAgree env host time suggest report print g.marker q := by
  obtain ⟨_, hsuggested⟩ := runWith_of_loaded time h
  obtain ⟨_, hreported⟩ := runWith_of_loaded time (h.validate .json)
  obtain ⟨_, hprinted⟩ := runWith_of_loaded time (h.validate .text)
  rw [← run_of_read hsuggest] at hsuggested
  rw [← run_of_read hreport] at hreported
  rw [← run_of_read hprint] at hprinted
  exact ⟨_, _, _, _, _, hsuggested, hreported, hprinted,
    agree_of_outcome (s := s) (f := f) rfl ⟨rfl, rfl⟩ ⟨rfl, rfl⟩⟩

/-! ## The arguments of such runs -/

/-- The options for an operator and for one role. -/
def roleOptions (operatorSpelling roleSpelling : Spelling) (o f : String) (role : OptionForm) :
    List Given :=
  [⟨operatorSpelling, operatorRoleOption, o⟩, ⟨roleSpelling, role, f⟩]

/-- The option for documents. -/
def jsonOption : Given :=
  ⟨.apart, formatOption, Format.json.name⟩

section Arguments

variable {operatorSpelling roleSpelling : Spelling} {o : String} {form : Form} {role : OptionForm}

theorem accepts_roleOptions (ho : operatorSpelling.Fits o) (hf : roleSpelling.Fits f)
    (hoperator : operatorRoleOption ∈ form.options) (hrole : role ∈ form.options)
    (hchoices : role.choices = []) :
    ∀ g ∈ roleOptions operatorSpelling roleSpelling o f role, form.Accepts g := by
  intro g hg
  rcases List.mem_pair.mp hg with rfl | rfl
  · exact ⟨hoperator, ho, Or.inl rfl⟩
  · exact ⟨hrole, hf, Or.inl hchoices⟩

theorem read_suggest (ho : operatorSpelling.Fits o) (hf : roleSpelling.Fits f) :
    read ("suggest" :: (roleOptions operatorSpelling roleSpelling o f roleOption).flatMap
      Given.arguments) = .ok ⟨none, some o, none, .suggest f⟩ := by
  have haccepts : ∀ g ∈ roleOptions operatorSpelling roleSpelling o f roleOption,
      suggestForm.Accepts g := accepts_roleOptions ho hf (by decide) (by decide) rfl
  rw [read_givens rfl haccepts rfl]
  rfl

theorem read_validate (ho : operatorSpelling.Fits o) (hf : roleSpelling.Fits f) :
    read ("validate" :: (roleOptions operatorSpelling roleSpelling o f rolesOption).flatMap
      Given.arguments) = .ok ⟨none, some o, none, .validate [f] .text⟩ := by
  have haccepts : ∀ g ∈ roleOptions operatorSpelling roleSpelling o f rolesOption,
      validateForm.Accepts g := accepts_roleOptions ho hf (by decide) (by decide) rfl
  rw [read_givens rfl haccepts rfl]
  rfl

theorem read_validate_json (ho : operatorSpelling.Fits o) (hf : roleSpelling.Fits f) :
    read ("validate" :: (roleOptions operatorSpelling roleSpelling o f rolesOption
      ++ [jsonOption]).flatMap Given.arguments)
      = .ok ⟨none, some o, none, .validate [f] .json⟩ := by
  have haccepts : ∀ g ∈ roleOptions operatorSpelling roleSpelling o f rolesOption ++ [jsonOption],
      validateForm.Accepts g := by
    intro g hg
    rcases List.mem_append.mp hg with hrole | hjson
    · exact accepts_roleOptions ho hf (by decide) (by decide) rfl g hrole
    · obtain rfl := List.mem_singleton.mp hjson
      exact ⟨by decide, (by decide : IsWord "json"), Or.inr (by decide)⟩
  rw [read_givens rfl haccepts rfl]
  rfl

example (o f : String) :
    read ["validate", "--operator-role", o, "--role=" ++ f, "--format", "json"]
      = read ("validate" :: (roleOptions .apart .joined o f rolesOption ++ [jsonOption]).flatMap
          Given.arguments) := rfl

end Arguments

/-! ## Main theorem -/

open Manifest in
/-- **Suggestions and validations agree.** Whenever an operator and a role
    can be loaded, the command that suggests prints the suggestions of the
    only finding in the document of a validation, one a line, and it prints
    nothing just when there is no finding, that is, when the validation has
    exit code 0. If no name, value or marker holds a line feed, the lines of
    the textual report that say what to add are these suggestions, in order.
    This is stated for all arguments that ask for the three runs, and for
    those that write their options in full. -/
theorem suggestions_and_validations_agree (env : Environment) (host : Host) (time : String) :
    (∀ (a : Arguments) f s g q suggest report print,
      CommandLine.read suggest = .ok (a.asking (.suggest f)) →
      CommandLine.read report = .ok (a.asking (.validate [f] .json)) →
      CommandLine.read print = .ok (a.asking (.validate [f] .text)) →
      Loaded env host (a.asking (.suggest f)) s g [q] →
      RunsAgree env host time suggest report print g.marker q)
    ∧ ∀ operatorSpelling roleSpelling o f rules q,
      operatorSpelling.Fits o → roleSpelling.Fits f →
      (granted host o).2 = .ok rules → request host f = .ok q →
      let options := roleOptions operatorSpelling roleSpelling o f
      RunsAgree env host time
        ("suggest" :: (options roleOption).flatMap Given.arguments)
        ("validate" :: (options rolesOption ++ [jsonOption]).flatMap Given.arguments)
        ("validate" :: (options rolesOption).flatMap Given.arguments)
        ((env "GRANTCHECK_ANNOTATION_MARKER").getD defaultMarker) q := by
  refine ⟨?_, ?_⟩
  · intro a f s g q suggest report print hsuggest hreport hprint h
    exact runsAgree_of_loaded hsuggest hreport hprint h
  · intro operatorSpelling roleSpelling o f rules q ho hf hrules hq options
    let a : Arguments := ⟨none, some o, none, .suggest f⟩
    let s := settingsAt env a (Settings.environmentLevel env).2
    have hloaded : Loaded env host a s ⟨rules, s.marker⟩ [q] :=
      ⟨resolve_of_no_level env rfl, operator_eq_ok.mpr ⟨hrules, rfl⟩, map_eq_ok.mpr ⟨q, hq, rfl⟩⟩
    exact runsAgree_of_loaded (a := a) (read_suggest ho hf) (read_validate_json ho hf)
      (read_validate ho hf) hloaded

open Manifest in
/-- The theorem at a role with a rule, and an operator that has none. -/
theorem suggestions_and_validations_agree_at_escalation :
    ∃ q, request smallDirectory "role.yaml" = .ok q
      ∧ RunsAgree (fun _ => none) smallDirectory "now"
        ["suggest", "--operator-role", "operator.yaml", "--role", "role.yaml"]
        ["validate", "--operator-role", "operator.yaml", "--role", "role.yaml", "--format", "json"]
        ["validate", "--operator-role", "operator.yaml", "--role", "role.yaml"] defaultMarker q :=
  ⟨_, request_smallDirectory,
    (suggestions_and_validations_agree (fun _ => none) smallDirectory "now").2
      .apart .apart _ _ _ _ (by decide) (by decide) granted_smallDirectory request_smallDirectory⟩

end CommandLine

end RoleGuard

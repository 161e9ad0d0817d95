import RoleGuard.Proofs.Arguments
import RoleGuard.Proofs.ExitCodes

/-! # Roles Against Themselves

    A file can be loaded in two ways: as the rules that its owner holds,
    which are those of all its roles, and as one role that is asked for,
    which is its first document. The rules asked for come first among the
    rules held, so whoever holds the rules of a file can create its role.

    A check of a file against itself therefore finds nothing. But the process
    that makes the check ends with the same status for a finding and for a
    file that breaks it, so the status alone does not tell the two apart.
-/

namespace RoleGuard

namespace Manifest

variable {host : Host} {f : String} {q : Request} {rules : List Rule} {d : Defect}

/-! ## Two ways of loading a file -/

theorem rules_isPrefix (hq : request host f = .ok q) (hrules : (granted host f).2 = .ok rules) :
    q.rules <+: rules := by
  obtain ⟨doc, rest, hdocs, hdoc⟩ := request_eq_ok.mp hq
  obtain ⟨docs, parts, hdocs', _, hparts, rfl⟩ := granted_eq_ok.mp hrules
  obtain rfl : doc :: rest = docs := Except.ok.inj (hdocs.symm.trans hdocs')
  obtain ⟨part, parts, hpart, _, rfl⟩ := List.forall₂_cons_left_iff.mp hparts
  rw [List.flatten_cons]
  cases hpart with
  | role hq' =>
    obtain rfl := Except.ok.inj (hdoc.symm.trans hq')
    exact List.prefix_append _ _
  | other hrole =>
    -- a document that is loaded as a request is a role, so it is not passed over
    cases hrole.symm.trans (isRole_of_ofManifest hdoc)

theorem check_of_isPrefix (h : q.rules <+: rules) (marker : String) :
    (⟨rules, marker⟩ : Grantor).check q = none := by
  rw [Grantor.check_eq_none_iff]
  intro r hr
  exact Grantor.canGrant_of_mem (h.subset hr)

/-- A file that can be loaded as held rules is not broken for whoever asks for its role. -/
theorem request_ne_defect (hrules : (granted host f).2 = .ok rules) :
    request host f ≠ .error (.defect d) := by
  obtain ⟨docs, parts, hdocs, _, hparts, _⟩ := granted_eq_ok.mp hrules
  intro hq
  rcases request_eq_defect.mp hq with hread | ⟨doc, rest, hdocs', hbreaks⟩
  · cases hdocs.symm.trans (documents_eq_defect.mpr hread)
  · obtain rfl : doc :: rest = docs := Except.ok.inj (hdocs'.symm.trans hdocs)
    obtain ⟨part, _, hpart, _, _⟩ := List.forall₂_cons_left_iff.mp hparts
    obtain ⟨notes, hok⟩ := (exists_contribution_iff f).mpr hpart
    cases hok.symm.trans (contribution_eq_defect.mpr hbreaks)

end Manifest

namespace CommandLine

open Manifest

variable {env : Environment} {host : Host} {console : Console} {time : String}
  {arguments : List String} {a : Arguments} {s : Settings} {g : Grantor} {q : Request}
  {qs : List Request} {rules : List Rule} {f : String} {o : Output} {e : Error} {d : Defect}

/-! ## Runs that check a role against itself -/

/-- A validation of one file, asked for at least once, with the same file for the operator. -/
structure ChecksItself (a : Arguments) (f : String) : Prop where
  /-- the file is that of the operator -/
  operator : a.operatorRole = some f
  /-- and of all roles -/
  roles : ∃ roles format, a.command = .validate roles format ∧ roles ≠ [] ∧ ∀ r ∈ roles, r = f

/-- What such a run loads was loaded from the file in both ways. -/
theorem loads_of_loaded (ha : ChecksItself a f) (h : Loaded env host a s g qs) :
    (granted host f).2 = .ok g.granted ∧ ∃ q, request host f = .ok q ∧ ∀ p ∈ qs, p = q := by
  obtain ⟨roles, format, hc, hne, hall⟩ := ha.roles
  constructor
  · have hgranted := (operator_eq_ok.mp h.operator).1
    rwa [operatorRole_of_resolve ha.operator h.settings] at hgranted
  · have hroles := h.roles
    rw [hc, rolesOf_validate hne] at hroles
    -- the first role tells what all the others load, since they are the same file
    obtain ⟨role, rest, rfl⟩ := List.exists_cons_of_ne_nil hne
    obtain ⟨q, _, hq, _⟩ := List.forall₂_cons_left_iff.mp (mapM_eq_ok.mp hroles)
    have hself : ∀ r ∈ role :: rest, request host r = .ok q := by
      intro r hr
      rwa [hall r hr, ← hall role List.mem_cons_self]
    refine ⟨q, ?_, ?_⟩
    · rwa [← hall role List.mem_cons_self]
    · rw [mapM_of_forall_eq hself] at hroles
      cases hroles
      intro p hp
      obtain ⟨_, _, rfl⟩ := List.mem_map.mp hp
      rfl

theorem loaded_of_loads (ha : ChecksItself a f)
    (hs : (Settings.resolve env a.overrides).2 = .ok s) (hq : request host f = .ok q)
    (hrules : (granted host f).2 = .ok rules) :
    ∃ qs, Loaded env host a s ⟨rules, s.marker⟩ qs := by
  obtain ⟨roles, format, hc, hne, hall⟩ := ha.roles
  refine ⟨roles.map fun _ => q, hs, ?_, ?_⟩
  · refine operator_eq_ok.mpr ⟨?_, rfl⟩
    rwa [operatorRole_of_resolve ha.operator hs]
  · rw [hc, rolesOf_validate hne]
    refine mapM_of_forall_eq fun r hr => ?_
    rwa [hall r hr]

/-- Such a run never finds a failing role. -/
theorem not_fails_of_loaded (ha : ChecksItself a f) (h : Loaded env host a s g qs) :
    ∀ p ∈ qs, ¬ g.Fails p := by
  obtain ⟨hrules, q, hq, hqs⟩ := loads_of_loaded ha h
  intro p hp
  rw [hqs p hp, ← Grantor.check_eq_none_iff_not_fails]
  exact check_of_isPrefix (rules_isPrefix hq hrules) g.marker

/-- The file can be loaded in both ways. -/
def Loads (host : Host) (f : String) : Prop :=
  (∃ q, request host f = .ok q) ∧ ∃ rules, (granted host f).2 = .ok rules

theorem code_ne_one_of_checksItself (hread : read arguments = .ok a) (ha : ChecksItself a f)
    (ho : run env host time arguments = .ok o) : o.exit.code ≠ 1 := by
  obtain ⟨roles, format, hc, _⟩ := ha.roles
  intro hcode
  obtain ⟨s, g, qs, h, q, hq, hfails⟩ := (validate_code_eq_one_iff hread ho hc).mp hcode
  exact not_fails_of_loaded ha h q hq hfails

/-- Such a run is broken by the file, as soon as its rules are loaded. -/
theorem granted_of_broken (ha : ChecksItself a f) (h : Broken env host a d) :
    (∃ s, (Settings.resolve env a.overrides).2 = .ok s)
      ∧ ∃ d, (granted host f).2 = .error (.defect d) := by
  cases h with
  | operator hs hd =>
    rw [operator_eq_defect, operatorRole_of_resolve ha.operator hs] at hd
    exact ⟨⟨_, hs⟩, _, hd⟩
  | role hs hg hd =>
    obtain ⟨roles, format, hc, hne, hall⟩ := ha.roles
    have hrules := (operator_eq_ok.mp hg).1
    rw [operatorRole_of_resolve ha.operator hs] at hrules
    rw [hc, rolesOf_validate hne] at hd
    -- the role is the file itself, and that was loaded before
    obtain ⟨role, hrole, hd⟩ := (mapM_eq_error.mp hd).exists_mem
    rw [hall role hrole] at hd
    exact absurd hd (request_ne_defect hrules)

/-! ## How the process ends -/

/-- A report that passes is written in ASCII. -/
theorem ascii_passed {r : Report} (h : r.ok = true) (format : Format) :
    Ascii (printedReport format r).toList := by
  have hnewline : Ascii ("\n" : String).toList := by simp [Ascii]
  cases format with
  | json =>
    show Ascii (r.toValue.json ++ "\n").toList
    rw [String.toList_append, ascii_append]
    exact ⟨Value.ascii_json r.plain_toValue, hnewline⟩
  | text =>
    have htext : r.text
        = "RBAC validation passed for " ++ toString (r.checked.length : Int) ++ " role(s)" := by
      unfold Report.text Report.lines
      rw [if_pos h]
      rfl
    show Ascii (r.text ++ "\n").toList
    rw [htext]
    simp only [String.toList_append, ascii_append]
    exact ⟨⟨⟨by simp [Ascii], Json.ascii_toString _⟩, by simp [Ascii]⟩, hnewline⟩

/-- What is ASCII can be printed on every console. -/
theorem prints_of_ascii {text : String} (h : Ascii text.toList) : console.prints text = true :=
  List.all_eq_true.mpr fun c hc => console.has_ascii c (h c hc)

theorem status_of_loaded (hread : read arguments = .ok a) (ha : ChecksItself a f)
    (h : Loaded env host a s g qs) :
    status (printed console (run env host time arguments)) = 0 := by
  obtain ⟨roles, format, hc, _⟩ := ha.roles
  have hok : (g.report qs).ok = true :=
    Grantor.report_ok_iff_not_fails.mpr (not_fails_of_loaded ha h)
  have hcode : (outcome s g qs (.validate roles format)).1.code = 0 :=
    outcome_code_eq_zero_iff.mpr hok
  have hprints : console.prints (outcome s g qs (.validate roles format)).2 = true :=
    prints_of_ascii (ascii_passed hok format)
  obtain ⟨messages, hrun⟩ := runWith_of_loaded time h
  rw [hc] at hrun
  rw [run_of_read hread, hrun, printed_of_prints hprints]
  exact hcode

theorem status_of_refused (hread : read arguments = .ok a) (h : Refused env host a e) :
    status (printed console (run env host time arguments)) = 2 := by
  obtain ⟨messages, hrun⟩ := runWith_of_refused time h
  rw [run_of_read hread, hrun]
  rfl

theorem status_of_broken (hread : read arguments = .ok a) (h : Broken env host a d) :
    status (printed console (run env host time arguments)) = 1 := by
  rw [run_of_read hread, runWith_of_broken time h]
  rfl

theorem status_eq_zero_iff (hread : read arguments = .ok a) (ha : ChecksItself a f) :
    status (printed console (run env host time arguments)) = 0
      ↔ (∃ s, (Settings.resolve env a.overrides).2 = .ok s) ∧ Loads host f := by
  constructor
  · intro hstatus
    rcases ends_cases env host a with ⟨s, g, qs, h⟩ | ⟨e, h⟩ | ⟨d, h⟩
    · obtain ⟨hrules, q, hq, _⟩ := loads_of_loaded ha h
      exact ⟨⟨s, h.settings⟩, ⟨q, hq⟩, g.granted, hrules⟩
    · cases hstatus.symm.trans (status_of_refused hread h)
    · cases hstatus.symm.trans (status_of_broken hread h)
  · rintro ⟨⟨s, hs⟩, ⟨q, hq⟩, rules, hrules⟩
    obtain ⟨qs, h⟩ := loaded_of_loads ha hs hq hrules
    exact status_of_loaded hread ha h

/-- Nothing is found, so the status of a finding is that of a file that breaks. -/
theorem status_eq_one_iff (hread : read arguments = .ok a) (ha : ChecksItself a f) :
    status (printed console (run env host time arguments)) = 1
      ↔ (∃ s, (Settings.resolve env a.overrides).2 = .ok s)
        ∧ ∃ d, (granted host f).2 = .error (.defect d) := by
  constructor
  · intro hstatus
    rcases ends_cases env host a with ⟨s, g, qs, h⟩ | ⟨e, h⟩ | ⟨d, h⟩
    · cases hstatus.symm.trans (status_of_loaded hread ha h)
    · cases hstatus.symm.trans (status_of_refused hread h)
    · exact granted_of_broken ha h
  · rintro ⟨⟨s, hs⟩, d, hd⟩
    rw [← operatorRole_of_resolve ha.operator hs, ← operator_eq_defect] at hd
    exact status_of_broken hread (.operator hs hd)

/-! ## The arguments of such runs -/

/-- The options that name the file for the operator, and for a role as often as there are
    spellings. -/
def selfOptions (f : String) (spelling : Spelling) (spellings : List Spelling) : List Given :=
  ⟨spelling, operatorRoleOption, f⟩ :: spellings.map fun sp => ⟨sp, rolesOption, f⟩

theorem all_selfOptions (f : String) (spelling : Spelling) (spellings : List Spelling)
    (name : String) :
    (filledBy (selfOptions f spelling spellings)).all name
      = (if operatorRoleOption.name == name then [f] else [])
        ++ if rolesOption.name == name then spellings.map fun _ => f else [] := by
  rw [all_filledBy, selfOptions, List.filter_cons, List.filter_map]
  cases hoperator : operatorRoleOption.name == name <;> cases hrole : rolesOption.name == name <;>
    simp [hrole, Function.comp_def]

theorem read_selfOptions {spelling : Spelling} {spellings : List Spelling} (hfits : spelling.Fits f)
    (hall : ∀ sp ∈ spellings, sp.Fits f) :
    read ("validate" :: (selfOptions f spelling spellings).flatMap Given.arguments)
      = .ok ⟨none, some f, none, .validate (spellings.map fun _ => f) .text⟩ := by
  have haccepts : ∀ g ∈ selfOptions f spelling spellings, validateForm.Accepts g := by
    intro g hg
    rcases List.mem_cons.mp hg with rfl | hrole
    · exact ⟨(by decide : operatorRoleOption ∈ validateForm.options), hfits, Or.inl rfl⟩
    · obtain ⟨sp, hsp, rfl⟩ := List.mem_map.mp hrole
      exact ⟨(by decide : rolesOption ∈ validateForm.options), hall sp hsp, Or.inl rfl⟩
  rw [read_givens rfl haccepts rfl]
  simp only [Filled.last?, formatOf, all_selfOptions]
  rfl

/-! ## Main theorem -/

/-- **A role file passes against itself.** If a file can be loaded in both
    ways, the rules asked for come first among the rules held, and their
    holder can create the role. So a validation of the file, however often
    it is asked for, finds nothing when the file is that of the operator:
    the process ends with status 0 exactly when the file can be loaded in
    both ways, and with status 1 exactly when a defect of the file escapes.
    This is stated for all arguments that ask for such a validation, and for
    those that write its options in full. -/
theorem roles_pass_against_themselves (host : Host) (f : String) :
    (∀ q rules, request host f = .ok q → (granted host f).2 = .ok rules →
      q.rules <+: rules ∧ ∀ marker, (⟨rules, marker⟩ : Grantor).check q = none)
    ∧ (∀ env console time arguments a, CommandLine.read arguments = .ok a → ChecksItself a f →
      let ending := status (printed console (run env host time arguments))
      (∀ o, run env host time arguments = .ok o → o.exit.code ≠ 1)
      ∧ (ending = 0 ↔ (∃ s, (Settings.resolve env a.overrides).2 = .ok s) ∧ Loads host f)
      ∧ (ending = 1 ↔ (∃ s, (Settings.resolve env a.overrides).2 = .ok s)
        ∧ ∃ d, (granted host f).2 = .error (.defect d)))
    ∧ ∀ env console time spelling spellings,
      spelling.Fits f → (∀ sp ∈ spellings, sp.Fits f) → spellings ≠ [] →
      let arguments := "validate" :: (selfOptions f spelling spellings).flatMap Given.arguments
      let ending := status (printed console (run env host time arguments))
      (∀ o, run env host time arguments = .ok o → o.exit.code ≠ 1)
      ∧ (ending = 0 ↔ Loads host f)
      ∧ (ending = 1 ↔ ∃ d, (granted host f).2 = .error (.defect d)) := by
  refine ⟨?_, ?_, ?_⟩
  · intro q rules hq hrules
    have hleading := rules_isPrefix hq hrules
    exact ⟨hleading, check_of_isPrefix hleading⟩
  · intro env console time arguments a hread ha ending
    exact ⟨fun o ho => code_ne_one_of_checksItself hread ha ho, status_eq_zero_iff hread ha,
      status_eq_one_iff hread ha⟩
  · intro env console time spelling spellings hfits hall hne arguments ending
    have hread := read_selfOptions hfits hall
    have ha : ChecksItself ⟨none, some f, none, .validate (spellings.map fun _ => f) .text⟩ f := by
      refine ⟨rfl, _, _, rfl, by simpa using hne, ?_⟩
      intro r hr
      obtain ⟨_, _, rfl⟩ := List.mem_map.mp hr
      rfl
    refine ⟨fun o ho => code_ne_one_of_checksItself hread ha ho, ?_, ?_⟩
    · exact (status_eq_zero_iff hread ha).trans (and_iff_right ⟨_, resolve_of_no_level env rfl⟩)
    · exact (status_eq_one_iff hread ha).trans (and_iff_right ⟨_, resolve_of_no_level env rfl⟩)

/-- The theorem at a role with a rule. -/
theorem roles_pass_against_themselves_at_role :
    status (printed .full (run (fun _ => none) smallDirectory "now"
      ["validate", "--operator-role", "role.yaml", "--role=role.yaml", "--role", "role.yaml"]))
        = 0 := by
  have hgranted : (granted smallDirectory "role.yaml").2 = .ok [⟨[], [], ["get"], []⟩] :=
    granted_of_singleton (q := ⟨"", none, "Role", [⟨[], [], ["get"], []⟩]⟩)
      documents_smallDirectory_role rfl
  have hself := (roles_pass_against_themselves smallDirectory "role.yaml").2.2 (fun _ => none)
    .full "now" .apart [.joined, .apart] (by decide) (by decide) (by simp)
  exact hself.2.1.mpr ⟨⟨_, request_smallDirectory⟩, _, hgranted⟩

/-- A file that is no UTF-8 is refused neither as held rules nor as a role: its check against
    itself ends with the status of a finding. -/
theorem undecodable_file_ends_like_finding :
    let host := Files.host ⟨fun _ => .ok [0x6B, 0x69, 0x6E, 0x64, 0x3A, 0x20, 0xFF]⟩
    status (printed .full (run (fun _ => none) host "now"
      ["validate", "--operator-role", "f.yaml", "--role", "f.yaml"])) = 1 := by
  rfl

end CommandLine

end RoleGuard

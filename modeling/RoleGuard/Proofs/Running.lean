import RoleGuard.CommandLine.Run
import RoleGuard.Proofs.Loading
import RoleGuard.Proofs.Precedence

/-! # How Runs End

    A run resolves its settings, loads what its command needs, and works out
    what it prints from that alone. Nothing can fail after the loading, so
    there are three ways to end:

    * **loaded**: everything was loaded, and the command is carried out;
    * **refused**: the settings or a manifest met an error, which is reported;
    * **broken**: a manifest met a defect, and there is no exit code.
-/

namespace RoleGuard

namespace CommandLine

variable {env : Environment} {host : Host} {a : Arguments} {s : Settings} {g : Grantor}
  {qs : List Request} {e : Error} {d : Defect}

/-! ## Settings -/

theorem override?_logLevel (a : Arguments) :
    Settings.override? a.overrides "log_level" = a.logLevel.map .text := by
  obtain ⟨logLevel, _, _, _⟩ := a
  cases logLevel <;> rfl

theorem override?_operatorRole (a : Arguments) :
    Settings.override? a.overrides "operator_role_path" = a.operatorRole.map .text := by
  obtain ⟨_, operatorRole, _, _⟩ := a
  cases operatorRole <;> rfl

theorem override?_manifestDir (a : Arguments) :
    Settings.override? a.overrides "manifest_dir" = a.manifestDir.map .text := by
  obtain ⟨_, _, manifestDir, _⟩ := a
  cases manifestDir <;> rfl

/-- The settings of a run whose log level is known: options win over the environment. -/
def settingsAt (env : Environment) (a : Arguments) (level : Log.LevelName) : Settings where
  logLevel := level
  operatorRole :=
    a.operatorRole.getD ((env "GRANTCHECK_OPERATOR_ROLE").getD "config/rbac/role.yaml")
  manifestDir := a.manifestDir.getD ((env "GRANTCHECK_MANIFEST_DIR").getD "bindata")
  marker := (env "GRANTCHECK_ANNOTATION_MARKER").getD defaultMarker
  dangerousVerbs := Settings.environmentVerbs env

/-- The settings of a run. Only an option that names no level is an error. -/
def settingsOf (env : Environment) (a : Arguments) : Except Error Settings :=
  match a.logLevel with
  | none => .ok (settingsAt env a (Settings.environmentLevel env).2)
  | some name => match levelOf? name with
    | some level => .ok (settingsAt env a level)
    | none => .error (Settings.badLevel name)

/-- The options of a run as overrides. -/
def overridesOf (a : Arguments) : Overrides where
  logLevel := a.logLevel
  operatorRole := a.operatorRole
  manifestDir := a.manifestDir

theorem givenBy_overridesOf (a : Arguments) : (overridesOf a).GivenBy a.overrides :=
  ⟨override?_logLevel a, override?_operatorRole a, override?_manifestDir a, rfl, rfl⟩

theorem resolved_overridesOf (env : Environment) (a : Arguments) :
    (overridesOf a).resolved env = settingsOf env a := by
  unfold Overrides.resolved settingsOf overridesOf
  cases a.logLevel with
  | none => rfl
  | some name =>
    dsimp only
    cases levelOf? name <;> rfl

/-- **Options are texts, so settings are never of the wrong kind.** -/
theorem resolve_overrides (env : Environment) (a : Arguments) :
    (Settings.resolve env a.overrides).2 = (settingsOf env a).mapError .invalid := by
  rw [(givenBy_overridesOf a).resolve_snd, resolved_overridesOf]

/-- An option for the manifest of the operator wins. -/
theorem operatorRole_of_resolve {f : String} (hrole : a.operatorRole = some f)
    (hs : (Settings.resolve env a.overrides).2 = .ok s) : s.operatorRole = f := by
  rw [resolve_overrides, mapError_eq_ok] at hs
  unfold settingsOf at hs
  split at hs
  · cases hs
    simp [settingsAt, hrole]
  · split at hs
    · cases hs
      simp [settingsAt, hrole]
    · cases hs

/-- Without an option for the level of messages, nothing is wrong with the settings. -/
theorem resolve_of_no_level (env : Environment) (hlevel : a.logLevel = none) :
    (Settings.resolve env a.overrides).2
      = .ok (settingsAt env a (Settings.environmentLevel env).2) := by
  rw [resolve_overrides]
  unfold settingsOf
  rw [hlevel]
  rfl

/-! ## Commands -/

/-- The same arguments with another command. -/
def Arguments.asking (a : Arguments) (c : Command) : Arguments :=
  { a with command := c }

/-- The roles that a command looks at. -/
def rolesOf (host : Host) (s : Settings) : Command → Except Refusal (List Request)
  | .validate roles _ => (requestsOf host s roles).2
  | .audit _ => .ok []
  | .suggest role => (Manifest.request host role).map fun q => [q]

/-- The operator holds the granted rules of its manifest. -/
theorem operator_snd (host : Host) (s : Settings) :
    (operator host s).2 = (Manifest.granted host (Path.ofText s.operatorRole).text).2.map
      fun rules => ⟨rules, s.marker⟩ := by
  unfold operator Manifest.operatorRules
  rw [Logged.andThen_snd, Logged.andThen_snd]
  cases (Manifest.granted host (Path.ofText s.operatorRole).text).2 <;> rfl

/-- How the path of the manifest is given does not matter. -/
theorem operator_eq_ok : (operator host s).2 = .ok g ↔
    (Manifest.granted host s.operatorRole).2 = .ok g.granted ∧ g.marker = s.marker := by
  have hpath := Path.ofText_text_ofText s.operatorRole
  rw [operator_snd, map_eq_ok]
  constructor
  · rintro ⟨rules, hrules, rfl⟩
    exact ⟨Manifest.granted_eq_ok_of_ofText hpath hrules, rfl⟩
  · rintro ⟨hrules, hmarker⟩
    exact ⟨_, Manifest.granted_eq_ok_of_ofText hpath.symm hrules, by rw [← hmarker]⟩

theorem operator_eq_defect : (operator host s).2 = .error (.defect d) ↔
    (Manifest.granted host s.operatorRole).2 = .error (.defect d) := by
  have hpath := Path.ofText_text_ofText s.operatorRole
  rw [operator_snd, map_eq_error]
  exact ⟨Manifest.granted_eq_defect_of_ofText hpath,
    Manifest.granted_eq_defect_of_ofText hpath.symm⟩

/-- The catalog is not looked at when roles are given. -/
theorem rolesOf_validate {roles : List String} (hne : roles ≠ []) (host : Host) (s : Settings)
    (format : Format) :
    rolesOf host s (.validate roles format) = roles.mapM (Manifest.request host) := by
  cases roles with
  | nil => exact absurd rfl hne
  | cons role roles => rfl

/-- The check of one role looks at the same role as the suggestions for it. -/
theorem rolesOf_singleton (host : Host) (s : Settings) (role : String) (format : Format) :
    rolesOf host s (.validate [role] format) = rolesOf host s (.suggest role) := by
  rw [rolesOf_validate (List.cons_ne_nil role []), List.mapM_cons, List.mapM_nil]
  show _ = (Manifest.request host role).map fun q => [q]
  cases Manifest.request host role <;> rfl

/-- What a command makes of the operator and the roles: how the run ends, and what it prints. -/
def outcome (s : Settings) (g : Grantor) (qs : List Request) : Command → Exit × String
  | .validate _ format =>
    (if (g.report qs).ok then .done else .uncovered, printedReport format (g.report qs))
  | .audit format =>
    (.done, printedAudit format (Audit.ofRules g.granted s.dangerousVerbs)
      (Audit.missingResources g.granted Audit.defaultRequiredResources))
  | .suggest _ => (.done, lines (qs.flatMap fun q => g.suggest (g.missing q)))

/-- Validations pass when their reports do. -/
theorem outcome_code_eq_zero_iff {roles : List String} {format : Format} :
    (outcome s g qs (.validate roles format)).1.code = 0 ↔ (g.report qs).ok = true := by
  unfold outcome
  dsimp only
  cases (g.report qs).ok <;> simp [Exit.code]

/-- **Every command loads first**, and what it loads determines what it prints. -/
theorem perform_snd (host : Host) (s : Settings) (c : Command) :
    (perform host s c).2 = do
      let g ← (operator host s).2
      let qs ← rolesOf host s c
      return outcome s g qs c := by
  cases c with
  | validate roles format =>
    unfold perform validate
    simp only [Logged.andThen_snd]
    rfl
  | audit format =>
    unfold perform audit
    simp only [Logged.andThen_snd]
    rfl
  | suggest role =>
    unfold perform suggest
    simp only [Logged.andThen_snd, rolesOf]
    refine bind_congr fun g => ?_
    cases Manifest.request host role with
    | error r => rfl
    | ok q => simp [outcome, Except.map, bind, Except.bind, pure, Except.pure]

/-! ## Three ways to end -/

/-- Everything that the run needs was loaded. -/
structure Loaded (env : Environment) (host : Host) (a : Arguments) (s : Settings) (g : Grantor)
    (qs : List Request) : Prop where
  /-- the settings -/
  settings : (Settings.resolve env a.overrides).2 = .ok s
  /-- the rules of the operator -/
  operator : (operator host s).2 = .ok g
  /-- the roles that the command looks at -/
  roles : rolesOf host s a.command = .ok qs

/-- The error that stops the run while it makes its settings or loads a manifest. -/
inductive Refused (env : Environment) (host : Host) (a : Arguments) : Error → Prop where
  /-- an option that cannot be used -/
  | settings {e : Error} (he : (Settings.resolve env a.overrides).2 = .error (.invalid e)) :
      Refused env host a e
  /-- the manifest of the operator -/
  | operator {s : Settings} {e : Error} (hs : (Settings.resolve env a.overrides).2 = .ok s)
      (he : (operator host s).2 = .error (.reported e)) : Refused env host a e
  /-- the manifest of a role -/
  | role {s : Settings} {g : Grantor} {e : Error}
      (hs : (Settings.resolve env a.overrides).2 = .ok s) (hg : (operator host s).2 = .ok g)
      (he : rolesOf host s a.command = .error (.reported e)) : Refused env host a e

/-- The defect that stops the run while it loads a manifest. -/
inductive Broken (env : Environment) (host : Host) (a : Arguments) : Defect → Prop where
  /-- in the manifest of the operator -/
  | operator {s : Settings} {d : Defect} (hs : (Settings.resolve env a.overrides).2 = .ok s)
      (hd : (operator host s).2 = .error (.defect d)) : Broken env host a d
  /-- in the manifest of a role -/
  | role {s : Settings} {g : Grantor} {d : Defect}
      (hs : (Settings.resolve env a.overrides).2 = .ok s) (hg : (operator host s).2 = .ok g)
      (hd : rolesOf host s a.command = .error (.defect d)) : Broken env host a d

/-- There is no fourth way. -/
theorem ends_cases (env : Environment) (host : Host) (a : Arguments) :
    (∃ s g qs, Loaded env host a s g qs) ∨ (∃ e, Refused env host a e)
      ∨ ∃ d, Broken env host a d := by
  have hsettings := resolve_overrides env a
  cases hs : settingsOf env a with
  | error e =>
    rw [hs] at hsettings
    exact Or.inr (Or.inl ⟨e, .settings hsettings⟩)
  | ok s =>
    rw [hs] at hsettings
    cases hg : (operator host s).2 with
    | error r =>
      cases r with
      | reported e => exact Or.inr (Or.inl ⟨e, .operator hsettings hg⟩)
      | defect d => exact Or.inr (Or.inr ⟨d, .operator hsettings hg⟩)
    | ok g =>
      cases hq : rolesOf host s a.command with
      | error r =>
        cases r with
        | reported e => exact Or.inr (Or.inl ⟨e, .role hsettings hg hq⟩)
        | defect d => exact Or.inr (Or.inr ⟨d, .role hsettings hg hq⟩)
      | ok qs => exact Or.inl ⟨s, g, qs, hsettings, hg, hq⟩

/-! ## The run in each of them -/

section Runs

variable (time : String)

/-- A run whose settings are known shows what its command ends in. -/
theorem runWith_of_settings (host : Host)
    (hs : (Settings.resolve env a.overrides).2 = .ok s) :
    ∃ setup messages, runWith env host time a =
      match (perform host s a.command).2 with
      | .error (.defect d) => .error (.defect d)
      | .error (.reported e) => .ok (failed setup time messages e)
      | .ok (exit, stdout) => .ok ⟨exit, stdout, messages⟩ := by
  unfold runWith
  cases hresolve : Settings.resolve env a.overrides with
  | mk warnings settings =>
    obtain rfl : settings = .ok s := by
      rw [hresolve] at hs
      exact hs
    exact ⟨_, _, rfl⟩

theorem runWith_of_loaded (h : Loaded env host a s g qs) :
    ∃ messages, runWith env host time a =
      .ok ⟨(outcome s g qs a.command).1, (outcome s g qs a.command).2, messages⟩ := by
  obtain ⟨setup, messages, hrun⟩ := runWith_of_settings time host h.settings
  rw [perform_snd, h.operator, h.roles] at hrun
  exact ⟨messages, hrun⟩

/-- A failed run prints no finding, and its last line is the error. -/
theorem failed_eq (setup : Log.Setup) (messages : String) (e : Error) :
    ∃ messages', failed setup time messages e =
      ⟨.unloaded, "", messages' ++ ("Error: " ++ e.message ++ "\n")⟩ := by
  refine ⟨messages ++ setup.emit time ⟨Log.commandName, Log.LevelName.error.value, e.message⟩ none,
    ?_⟩
  unfold failed
  simp only [String.append_assoc]

theorem runWith_of_refused (h : Refused env host a e) :
    ∃ messages, runWith env host time a =
      .ok ⟨.unloaded, "", messages ++ ("Error: " ++ e.message ++ "\n")⟩ := by
  cases h with
  | settings he =>
    unfold runWith
    cases hresolve : Settings.resolve env a.overrides with
    | mk warnings settings =>
      obtain rfl : settings = .error (.invalid e) := by
        rw [hresolve] at he
        exact he
      obtain ⟨messages, hfailed⟩ := failed_eq time {} (({} : Log.Setup).emitAll time warnings) e
      exact ⟨messages, congrArg Except.ok hfailed⟩
  | operator hs he =>
    obtain ⟨setup, messages, hrun⟩ := runWith_of_settings time host hs
    rw [perform_snd, he] at hrun
    obtain ⟨messages', hfailed⟩ := failed_eq time setup messages e
    exact ⟨messages', hrun.trans (congrArg Except.ok hfailed)⟩
  | role hs hg he =>
    obtain ⟨setup, messages, hrun⟩ := runWith_of_settings time host hs
    rw [perform_snd, hg, he] at hrun
    obtain ⟨messages', hfailed⟩ := failed_eq time setup messages e
    exact ⟨messages', hrun.trans (congrArg Except.ok hfailed)⟩

theorem runWith_of_broken (h : Broken env host a d) :
    runWith env host time a = .error (.defect d) := by
  cases h with
  | operator hs hd =>
    obtain ⟨setup, messages, hrun⟩ := runWith_of_settings time host hs
    rw [perform_snd, hd] at hrun
    exact hrun
  | role hs hg hd =>
    obtain ⟨setup, messages, hrun⟩ := runWith_of_settings time host hs
    rw [perform_snd, hg, hd] at hrun
    exact hrun

end Runs

theorem run_of_read {arguments : List String} (ha : read arguments = .ok a) (time : String) :
    run env host time arguments = runWith env host time a := by
  unfold run
  rw [ha]

/-! ## Printing -/

section Printing

variable {console : Console} {o : Output}

theorem printed_of_prints (h : console.prints o.stdout = true) :
    printed console (.ok o) = .ok o := by
  have hnone : (o.stdout.toList.find? fun c => !console.has c) = none := by
    rw [List.find?_eq_none]
    intro c hc
    simpa using List.all_eq_true.mp h c hc
  unfold printed
  simp only [hnone]

/-- What cannot be printed is stopped by a character that the console lacks. -/
theorem exists_printed_of_not_prints (h : console.prints o.stdout = false) :
    ∃ c ∈ o.stdout.toList, console.has c = false
      ∧ printed console (.ok o) = .error (.unencodable console.encoding c) := by
  have hsome : (o.stdout.toList.find? fun c => !console.has c).isSome = true := by
    rw [List.find?_isSome]
    obtain ⟨c, hc, hlacks⟩ := List.all_eq_false.mp h
    exact ⟨c, hc, by simpa using hlacks⟩
  obtain ⟨c, hfound⟩ := Option.isSome_iff_exists.mp hsome
  refine ⟨c, List.mem_of_find?_eq_some hfound, by simpa using List.find?_some hfound, ?_⟩
  unfold printed
  simp only [hfound]

end Printing

end CommandLine

end RoleGuard

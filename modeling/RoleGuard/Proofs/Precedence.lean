import RoleGuard.Proofs.LogCalls
import RoleGuard.Proofs.Reading
import RoleGuard.Settings

/-! # Precedence of Settings

    A setting is what an override says, else what the environment says, else
    its default. A text counts also when it is empty. The log level is a
    name, and whoever takes it judges it:

    * **environment**: a text that names no level is replaced by the default,
      with one warning;
    * **override**: such a text is an error, whatever the environment holds;
    * **log**: it is given names of levels only, so it accepts them.

    All of them read a name without surrounding blanks and in upper case, so
    settings that are given back as overrides stay as they are.
-/

namespace RoleGuard

namespace Settings

variable {env : Environment} {overrides : Fields} {name raw : String} {given : Option String}
  {level : Log.LevelName} {s : Settings}

/-! ## Names of levels -/

/-- How the names of levels are written: without surrounding blanks, and in upper case. -/
def standardized (raw : String) : String :=
  Text.upper (Text.trim raw)

/-- The text is the name of a level. -/
def IsLevel (name : String) : Prop :=
  ∃ level : Log.LevelName, level.text = name

theorem isLevel_iff_mem : IsLevel name ↔ ∃ level ∈ Log.LevelName.all, level.text = name := by
  unfold IsLevel
  constructor
  · rintro ⟨level, rfl⟩
    exact ⟨level, by cases level <;> decide, rfl⟩
  · rintro ⟨level, _, h⟩
    exact ⟨level, h⟩

instance (name : String) : Decidable (IsLevel name) :=
  decidable_of_iff _ isLevel_iff_mem.symm

theorem levelOf?_eq_some_iff : levelOf? raw = some level ↔ level.text = standardized raw := by
  unfold levelOf? standardized
  rw [Log.LevelName.ofAnyCase?_eq_some_iff]
  exact eq_comm

theorem levelOf?_eq_none_iff : levelOf? raw = none ↔ ¬ IsLevel (standardized raw) := by
  unfold IsLevel
  simp only [Option.eq_none_iff_forall_ne_some, ne_eq, levelOf?_eq_some_iff, not_exists]

/-- The name of a level stands for the level. -/
theorem levelOf?_text (level : Log.LevelName) : levelOf? level.text = some level := by
  cases level <;> decide +kernel

/-! ## The environment -/

/-- The warning about a text in the environment that names no level. -/
def levelWarning (raw : String) : Log.Record :=
  ⟨Log.configName, Log.LevelName.warning.value,
    "Invalid log level: " ++ raw ++ ", using " ++ Log.LevelName.warning.text⟩

/-- The text for the level in the environment, or the default. -/
def environmentRaw (env : Environment) : String :=
  (env "GRANTCHECK_LOG_LEVEL").getD "WARNING"

theorem environmentLevel_eq (env : Environment) :
    environmentLevel env = match levelOf? (environmentRaw env) with
      | some level => ([], level)
      | none => ([levelWarning (environmentRaw env)], .warning) := by
  unfold environmentLevel environmentRaw
  cases env "GRANTCHECK_LOG_LEVEL" with
  | none =>
    have hdefault : levelOf? "WARNING" = some .warning := levelOf?_text .warning
    rw [Option.getD_none, hdefault]
  | some raw =>
    cases hraw : levelOf? raw <;> simp only [Option.getD_some, hraw, levelWarning]

/-- The only warnings are those about the environment. -/
theorem resolve_fst (env : Environment) (overrides : Fields) :
    (resolve env overrides).1 = (environmentLevel env).1 := by
  rfl

/-! ## Overrides -/

/-- A field with a text or nothing as its override. -/
theorem chosen_text (h : override? overrides name = given.map .text) (default : String) :
    chosen Schema.text overrides name default = .ok (given.getD default) := by
  unfold chosen
  rw [h]
  cases given <;> rfl

end Settings

/-- Texts that override settings. A setting without one is not overridden. -/
structure Overrides where
  /-- what is logged -/
  logLevel : Option String := none
  /-- the manifest that holds the operator's rules -/
  operatorRole : Option String := none
  /-- the directory that holds the role manifests -/
  manifestDir : Option String := none
  /-- what stands before suggested annotations -/
  marker : Option String := none
deriving DecidableEq, Repr, Inhabited

namespace Overrides

variable {env : Environment} {fields : Fields} {o : Overrides} {raw : String}
  {s : Settings}

/-- The fields hold these overrides. A field may be null or absent where nothing is overridden. -/
structure GivenBy (o : Overrides) (fields : Fields) : Prop where
  /-- the log level -/
  logLevel : Settings.override? fields "log_level" = o.logLevel.map .text
  /-- the manifest of the operator -/
  operatorRole : Settings.override? fields "operator_role_path" = o.operatorRole.map .text
  /-- the directory of manifests -/
  manifestDir : Settings.override? fields "manifest_dir" = o.manifestDir.map .text
  /-- the marker -/
  marker : Settings.override? fields "annotation_marker" = o.marker.map .text
  /-- the verbs are not overridden -/
  dangerousVerbs : Settings.override? fields "dangerous_verbs" = none

/-- The settings with these overrides, once the level is known. -/
def settings (o : Overrides) (env : Environment) (level : Log.LevelName) : Settings where
  logLevel := level
  operatorRole :=
    o.operatorRole.getD ((env "GRANTCHECK_OPERATOR_ROLE").getD "config/rbac/role.yaml")
  manifestDir := o.manifestDir.getD ((env "GRANTCHECK_MANIFEST_DIR").getD "bindata")
  marker := o.marker.getD ((env "GRANTCHECK_ANNOTATION_MARKER").getD defaultMarker)
  dangerousVerbs := Settings.environmentVerbs env

/-- What these overrides resolve to. Only one that names no level is an error. -/
def resolved (o : Overrides) (env : Environment) : Except Error Settings :=
  match o.logLevel with
  | none => .ok (o.settings env (Settings.environmentLevel env).2)
  | some raw => match levelOf? raw with
    | some level => .ok (o.settings env level)
    | none => .error (Settings.badLevel raw)

theorem GivenBy.chosenRest (h : o.GivenBy fields) (level : Log.LevelName) :
    Settings.chosenRest env fields =
      .ok ((o.settings env level).operatorRole, (o.settings env level).manifestDir,
        (o.settings env level).marker, (o.settings env level).dangerousVerbs) := by
  unfold Settings.chosenRest
  simp only [Settings.chosen_text h.operatorRole, Settings.chosen_text h.manifestDir,
    Settings.chosen_text h.marker]
  unfold Settings.chosen
  rw [h.dangerousVerbs]
  rfl

/-- **Overrides that are texts are never of the wrong kind**, so only the level can be refused. -/
theorem GivenBy.resolve_snd (h : o.GivenBy fields) (env : Environment) :
    (Settings.resolve env fields).2 = (o.resolved env).mapError .invalid := by
  unfold Settings.resolve Settings.chosenLevel resolved
  rw [h.logLevel]
  cases o.logLevel with
  | none =>
    simp only [Option.map_none, h.chosenRest (Settings.environmentLevel env).2]
    rfl
  | some raw =>
    simp only [Option.map_some, Schema.text]
    cases levelOf? raw with
    | none => rfl
    | some level =>
      simp only [h.chosenRest level]
      rfl

/-- Without an override for the level there are settings. -/
theorem GivenBy.resolve_of_no_level (h : o.GivenBy fields) (hlevel : o.logLevel = none)
    (env : Environment) :
    (Settings.resolve env fields).2 = .ok (o.settings env (Settings.environmentLevel env).2) := by
  rw [h.resolve_snd]
  unfold resolved
  rw [hlevel]
  rfl

/-- An override for the level decides by itself. -/
theorem GivenBy.resolve_of_level (h : o.GivenBy fields) (hlevel : o.logLevel = some raw)
    (env : Environment) :
    (Settings.resolve env fields).2 = match levelOf? raw with
      | some level => .ok (o.settings env level)
      | none => .error (.invalid (Settings.badLevel raw)) := by
  rw [h.resolve_snd]
  unfold resolved
  simp only [hlevel]
  cases levelOf? raw <;> rfl

/-- Settings depend on their overrides but for the level. -/
theorem GivenBy.exists_level (h : o.GivenBy fields)
    (hs : (Settings.resolve env fields).2 = .ok s) : ∃ level, s = o.settings env level := by
  cases hlevel : o.logLevel with
  | none =>
    rw [h.resolve_of_no_level hlevel] at hs
    exact ⟨_, (Except.ok.inj hs).symm⟩
  | some raw =>
    rw [h.resolve_of_level hlevel] at hs
    cases hraw : levelOf? raw with
    | none =>
      rw [hraw] at hs
      cases hs
    | some level =>
      rw [hraw] at hs
      exact ⟨level, (Except.ok.inj hs).symm⟩

end Overrides

namespace Settings

/-! ## Settings given back -/

/-- All settings as overrides. -/
def fields (s : Settings) : Fields :=
  [("log_level", .text s.logLevel.text), ("operator_role_path", .text s.operatorRole),
    ("manifest_dir", .text s.manifestDir), ("annotation_marker", .text s.marker),
    ("dangerous_verbs", .texts s.dangerousVerbs)]

/-- The name of a level is read back, and the other settings are read as they are. -/
theorem resolve_fields (env : Environment) (s : Settings) : (resolve env s.fields).2 = .ok s := by
  have hlevel (default : Log.LevelName) : chosenLevel s.fields default = .ok (.ok s.logLevel) := by
    have hoverride : override? s.fields "log_level" = some (.text s.logLevel.text) := rfl
    unfold chosenLevel
    simp only [hoverride, Schema.text, levelOf?_text]
  have hverbs : chosen (Schema.items .list Schema.text) s.fields "dangerous_verbs"
      (environmentVerbs env) = .ok s.dangerousVerbs := Schema.items_texts .list _ _
  have hrest : chosenRest env s.fields
      = .ok (s.operatorRole, s.manifestDir, s.marker, s.dangerousVerbs) := by
    unfold chosenRest
    rw [hverbs]
    rfl
  unfold resolve
  simp only [hlevel, hrest]
  rfl

/-- The log accepts the level of any settings, however it was set up before. -/
theorem call_configure (s : Settings) (setup : Log.Setup) :
    setup.call (.configure (.text s.logLevel.text)) = (setup.withLevel s.logLevel.value, .done) :=
  Log.Setup.call_of_denotes (.name s.logLevel.upper_text)

/-! ## Main theorem -/

/-- **Settings follow their precedence.** Each text is that of the override,
    else that of the environment, else the default. Without an override the
    level is the one that the environment names; where it names none, there
    is one warning and the default. With an override the level is the one
    that the override names, and there is an error just when it names none.
    Whatever the settings are, the log accepts their level, and they are
    resolved to themselves when all of them are given as overrides. -/
theorem settings_follow_precedence :
    (∀ env fields (o : Overrides), o.GivenBy fields →
      let raw := environmentRaw env
      (∀ s, (resolve env fields).2 = .ok s →
        s.operatorRole
          = o.operatorRole.getD ((env "GRANTCHECK_OPERATOR_ROLE").getD "config/rbac/role.yaml")
        ∧ s.manifestDir = o.manifestDir.getD ((env "GRANTCHECK_MANIFEST_DIR").getD "bindata")
        ∧ s.marker = o.marker.getD ((env "GRANTCHECK_ANNOTATION_MARKER").getD "//+kubebuilder:"))
      ∧ (o.logLevel = none → ∃ s, (resolve env fields).2 = .ok s
        ∧ (IsLevel (standardized raw) →
          s.logLevel.text = standardized raw ∧ (resolve env fields).1 = [])
        ∧ (¬ IsLevel (standardized raw) →
          s.logLevel = .warning ∧ (resolve env fields).1 = [levelWarning raw]))
      ∧ ∀ given, o.logLevel = some given →
        (IsLevel (standardized given) →
          ∃ s, (resolve env fields).2 = .ok s ∧ s.logLevel.text = standardized given)
        ∧ ((∃ e, (resolve env fields).2 = .error (.invalid e)) ↔ ¬ IsLevel (standardized given)))
    ∧ (∀ (s : Settings) (setup : Log.Setup),
      let call := setup.call (.configure (.text s.logLevel.text))
      call.2 = .done ∧ call.1.level = s.logLevel.value)
    ∧ ∀ env s, (resolve env (fields s)).2 = .ok s := by
  refine ⟨?_, ?_, resolve_fields⟩
  · intro env fields o h raw
    refine ⟨?_, ?_, ?_⟩
    · intro s hs
      obtain ⟨level, rfl⟩ := h.exists_level hs
      exact ⟨rfl, rfl, rfl⟩
    · intro hnone
      refine ⟨_, h.resolve_of_no_level hnone env, ?_, ?_⟩
      · rintro ⟨level, hlevel⟩
        have henv : environmentLevel env = ([], level) := by
          rw [environmentLevel_eq, levelOf?_eq_some_iff.mpr hlevel]
        rw [resolve_fst, henv]
        exact ⟨hlevel, rfl⟩
      · intro hno
        have henv : environmentLevel env = ([levelWarning raw], .warning) := by
          rw [environmentLevel_eq, levelOf?_eq_none_iff.mpr hno]
        rw [resolve_fst, henv]
        exact ⟨rfl, rfl⟩
    · intro given hgiven
      rw [h.resolve_of_level hgiven]
      constructor
      · rintro ⟨level, hlevel⟩
        rw [levelOf?_eq_some_iff.mpr hlevel]
        exact ⟨_, rfl, hlevel⟩
      · rw [← levelOf?_eq_none_iff]
        cases levelOf? given <;> simp
  · intro s setup
    simp only [call_configure]
    exact ⟨trivial, rfl⟩

/-- The theorem at an environment with a bad level and an empty marker, without an override for the
    level, with one in lower case, and with one that names no level; and at an environment with a
    level in mixed case. -/
theorem settings_follow_precedence_at_bad_level :
    let env : Environment := fun name =>
      if name = "GRANTCHECK_LOG_LEVEL" then some "loud"
      else if name = "GRANTCHECK_ANNOTATION_MARKER" then some ""
      else if name = "GRANTCHECK_MANIFEST_DIR" then some "roles"
      else none
    let some_ : Fields := [("manifest_dir", .text "bundle"), ("log_level", .null)]
    let lower : Fields := [("log_level", .text " info ")]
    let bad : Fields := [("log_level", .text "quiet")]
    (∃ s, (resolve env some_).2 = .ok s ∧ s.operatorRole = "config/rbac/role.yaml"
        ∧ s.manifestDir = "bundle" ∧ s.marker = "" ∧ s.logLevel = .warning)
      ∧ (resolve env some_).1 = [levelWarning "loud"]
      ∧ (∃ s, (resolve env lower).2 = .ok s ∧ s.manifestDir = "roles" ∧ s.logLevel.text = "INFO")
      ∧ (∃ e, (resolve env bad).2 = .error (.invalid e))
      ∧ ∃ s, (resolve (fun _ => some "Debug\n") []).2 = .ok s ∧ s.logLevel.text = "DEBUG" := by
  intro env some_ lower bad
  obtain ⟨hresolve, -, -⟩ := settings_follow_precedence
  have hsome : Overrides.GivenBy { manifestDir := some "bundle" } some_ :=
    ⟨rfl, rfl, rfl, rfl, rfl⟩
  have hlower : Overrides.GivenBy { logLevel := some " info " } lower := ⟨rfl, rfl, rfl, rfl, rfl⟩
  have hbad : Overrides.GivenBy { logLevel := some "quiet" } bad := ⟨rfl, rfl, rfl, rfl, rfl⟩
  obtain ⟨htexts, hnone, -⟩ := hresolve env some_ _ hsome
  obtain ⟨s, hs, -, hwarned⟩ := hnone rfl
  obtain ⟨hlevel, hwarnings⟩ := hwarned (by decide +kernel)
  obtain ⟨hrole, hdir, hmarker⟩ := htexts s hs
  refine ⟨⟨s, hs, hrole, hdir, hmarker, hlevel⟩, hwarnings, ?_, ?_, ?_⟩
  · obtain ⟨htexts, -, hlevel⟩ := hresolve env lower _ hlower
    obtain ⟨s, hs, hname⟩ := (hlevel " info " rfl).1 (by decide +kernel)
    obtain ⟨-, hdir, -⟩ := htexts s hs
    have hinfo : standardized " info " = "INFO" := by decide +kernel
    exact ⟨s, hs, hdir, hname.trans hinfo⟩
  · obtain ⟨-, -, hlevel⟩ := hresolve env bad _ hbad
    exact (hlevel "quiet" rfl).2.mpr (by decide +kernel)
  · obtain ⟨-, hnone, -⟩ := hresolve (fun _ => some "Debug\n") [] {} ⟨rfl, rfl, rfl, rfl, rfl⟩
    obtain ⟨s, hs, hnamed, -⟩ := hnone rfl
    have hdebug : standardized "Debug\n" = "DEBUG" := by decide +kernel
    exact ⟨s, hs, (hnamed (by decide +kernel)).1.trans hdebug⟩

end Settings

end RoleGuard

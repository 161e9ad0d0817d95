import RoleGuard.Audit
import RoleGuard.Error
import RoleGuard.Log.Level
import RoleGuard.Schema
import RoleGuard.Text.Blank

/-! # Settings

    Settings come from environment variables with defaults; overrides win
    over the environment. A bad log level in the environment is replaced by
    the default with a warning, a bad override is an error.
-/

namespace RoleGuard

/-- The settings of a run. -/
structure Settings where
  /-- what is logged -/
  logLevel : Log.LevelName := .warning
  /-- the manifest that holds the operator's rules -/
  operatorRole : String := "config/rbac/role.yaml"
  /-- the directory that holds the role manifests -/
  manifestDir : String := "bindata"
  /-- what stands before suggested annotations -/
  marker : String := defaultMarker
  /-- the verbs that the audit looks for -/
  dangerousVerbs : List String := Audit.defaultDangerousVerbs
deriving DecidableEq, Repr, Inhabited

/-- The variables of the environment. -/
abbrev Environment := String → Option String

/-- The variables that settings come from. -/
def Settings.variables : List String :=
  ["GRANTCHECK_LOG_LEVEL", "GRANTCHECK_OPERATOR_ROLE", "GRANTCHECK_MANIFEST_DIR",
   "GRANTCHECK_ANNOTATION_MARKER", "GRANTCHECK_DANGEROUS_VERBS"]

/-- The items of a comma list: trimmed, and without empty ones. -/
def commaItems (s : String) : List String :=
  (((Text.splitChars ',' s.toList).map Text.trimChars).filter (!·.isEmpty)).map String.ofList

/-- The level that a setting names, blanks and case aside. -/
def levelOf? (s : String) : Option Log.LevelName :=
  Log.LevelName.ofAnyCase? (Text.trim s)

namespace Settings

/-- Why there are no settings. -/
inductive Failure where
  /-- an override that cannot be used -/
  | invalid (e : Error)
  /-- overrides of the wrong kind -/
  | rejected (r : Rejection)

/-- The level that the environment asks for, and the warning about a bad one. -/
def environmentLevel (env : Environment) : List Log.Record × Log.LevelName :=
  match env "GRANTCHECK_LOG_LEVEL" with
  | none => ([], .warning)
  | some s => match levelOf? s with
    | some level => ([], level)
    | none =>
      ([⟨Log.configName, Log.LevelName.warning.value,
        "Invalid log level: " ++ s ++ ", using " ++ Log.LevelName.warning.text⟩], .warning)

/-- The verbs that the environment asks for. -/
def environmentVerbs (env : Environment) : List String :=
  match env "GRANTCHECK_DANGEROUS_VERBS" with
  | none => Audit.defaultDangerousVerbs
  | some s => commaItems s

/-- The override of a field; null overrides nothing. -/
def override? (overrides : Fields) (name : String) : Option Value :=
  match overrides.lookup name with
  | some .null => none
  | v => v

/-- A field with its override, if there is one, in place of its default. -/
def chosen {α : Type} (read : List Step → Value → Checked α) (overrides : Fields) (name : String)
    (default : α) : Checked α :=
  match override? overrides name with
  | none => .ok default
  | some v => read [.field name] v

/-- The error of an override that names no level. -/
def badLevel (s : String) : Error :=
  .configuration "log_level" (.text s) "not a logging level name" []

/-- The log level with its override. -/
def chosenLevel (overrides : Fields) (default : Log.LevelName) :
    Except Error (Checked Log.LevelName) :=
  match override? overrides "log_level" with
  | none => .ok (.ok default)
  | some v => match Schema.text [.field "log_level"] v with
    | .error faults => .ok (.error faults)
    | .ok s => match levelOf? s with
      | some level => .ok (.ok level)
      -- an unknown level is reported at once, before faults of other fields
      | none => .error (badLevel s)

/-- The settings apart from the log level. -/
def chosenRest (env : Environment) (overrides : Fields) :
    Checked (String × String × String × List String) :=
  let setting (name variable_ default : String) : Checked String :=
    chosen Schema.text overrides name ((env variable_).getD default)
  Checked.both (setting "operator_role_path" "GRANTCHECK_OPERATOR_ROLE" "config/rbac/role.yaml") <|
    Checked.both (setting "manifest_dir" "GRANTCHECK_MANIFEST_DIR" "bindata") <|
    Checked.both (setting "annotation_marker" "GRANTCHECK_ANNOTATION_MARKER" defaultMarker)
      (chosen (Schema.items .list Schema.text) overrides "dangerous_verbs" (environmentVerbs env))

/-- The settings, and the warnings made on the way to them. -/
def resolve (env : Environment) (overrides : Fields) :
    List Log.Record × Except Failure Settings :=
  let (warnings, level) := environmentLevel env
  (warnings, match chosenLevel overrides level with
    | .error e => .error (.invalid e)
    | .ok level =>
      match Checked.both level (chosenRest env overrides) with
      | .error faults => .error (.rejected ⟨.settings, faults⟩)
      | .ok (level, role, dir, marker, verbs) => .ok ⟨level, role, dir, marker, verbs⟩)

end Settings

end RoleGuard

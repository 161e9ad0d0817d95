import RoleGuard.CommandLine.Forms
import RoleGuard.Settings

/-! # Arguments

    What the arguments of a run ask for: one of three commands, and settings
    that override the environment. Arguments that do not ask for a run stop
    it with a text and an exit code.
-/

namespace RoleGuard.CommandLine

/-- What a run is to do. -/
inductive Command where
  /-- check the given roles, or those of the catalog if none is given -/
  | validate (roles : List String) (format : Format)
  /-- audit the rules of the operator -/
  | audit (format : Format)
  /-- suggest annotations for one role -/
  | suggest (role : String)
deriving DecidableEq, Repr, Inhabited

/-- The arguments of a run. -/
structure Arguments where
  /-- the level of messages -/
  logLevel : Option String
  /-- the manifest of the operator -/
  operatorRole : Option String
  /-- the directory of manifests -/
  manifestDir : Option String
  /-- what to do -/
  command : Command
deriving DecidableEq, Repr, Inhabited

/-- An option as a setting; null if it was not given. -/
def settingOf (given : Option String) : Value :=
  match given with
  | none => .null
  | some s => .text s

namespace Arguments

/-- The settings that the arguments override. -/
def overrides (a : Arguments) : Fields :=
  [("log_level", settingOf a.logLevel), ("operator_role_path", settingOf a.operatorRole),
    ("manifest_dir", settingOf a.manifestDir)]

end Arguments

/-- The format that was asked for. -/
def formatOf (f : Filled) : Format :=
  if f.last? formatOption.name = some Format.json.name then .json else .text

/-- The words for commands, with their forms and what they make of options. -/
def commands : List (String × Form × (Filled → Command)) :=
  [("validate", validateForm, fun f => .validate (f.all rolesOption.name) (formatOf f)),
    ("audit", auditForm, fun f => .audit (formatOf f)),
    ("suggest", suggestForm, fun f => .suggest ((f.last? roleOption.name).getD ""))]

/-- Reads the arguments behind the word for a command. -/
def readCommand (general : Filled) (form : Form) (command : Filled → Command)
    (arguments : List String) : Except Stop Arguments := do
  let (f, _) ← form.read false arguments
  -- required options are looked for before arguments that mean nothing are counted
  if !(form.absent f).isEmpty then throw (.misuse form (.absent (form.absent f)))
  let extras := general.extras ++ f.extras
  if !extras.isEmpty then throw (.misuse programForm (.unrecognized extras))
  return {
    logLevel := general.last? logLevelOption.name
    operatorRole := f.last? operatorRoleOption.name
    manifestDir := f.last? manifestDirOption.name
    command := command f }

/-- Reads arguments. -/
def read (arguments : List String) : Except Stop Arguments := do
  match ← programForm.read true arguments with
  | (_, none) => throw (.misuse programForm (.absent ["command"]))
  | (general, some (word, rest)) => match commands.lookup word with
    | some (form, command) => readCommand general form command rest
    | none =>
      throw (.misuse programForm (.badChoice "command" word (commands.map (·.1))))

end RoleGuard.CommandLine

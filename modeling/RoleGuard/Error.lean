import RoleGuard.Defect
import RoleGuard.Report
import RoleGuard.Value.Text

/-! # Errors

    What the program reports about its inputs. Each error has a code, a
    wording, and details for machines.
-/

namespace RoleGuard

/-- Fields of the details of an error. -/
abbrev Fields := List (String × Value)

/-- Writes fields over others; a field that is present keeps its place. -/
def Fields.over (base : Fields) (fields : Fields) : Fields :=
  fields.foldl
    (fun acc f =>
      if acc.any fun g => g.1 == f.1 then acc.map fun g => if g.1 == f.1 then f else g
      else acc ++ [f])
    base

/-- An error of the program. -/
inductive Error where
  /-- an error without a kind of its own -/
  | general (message : String) (details : Fields)
  /-- an input that is not what it should be -/
  | validation (message : String) (details : Fields)
  /-- a setting that cannot be used -/
  | configuration (key : String) (value : Value) (reason : String) (details : Fields)
  /-- a manifest that cannot be read or understood -/
  | manifest (path reason : String) (details : Fields)
  /-- a role that would hold more than its creator -/
  | escalation (e : Escalation)

/-- Why something is refused. -/
inductive Refusal where
  /-- the program reports it -/
  | reported (e : Error)
  /-- nobody handles it -/
  | defect (d : Defect)

namespace Error

/-- The code of an error. -/
def code : Error → String
  | general .. => "grantcheck_error"
  | validation .. => "validation_error"
  | configuration .. => "invalid_configuration"
  | manifest .. => "manifest_error"
  | escalation _ => "privilege_escalation"

/-- The name of the kind of an error. -/
def kindName : Error → String
  | general .. => "GrantCheckError"
  | validation .. => "ValidationError"
  | configuration .. => "InvalidConfigurationError"
  | manifest .. => "ManifestError"
  | escalation _ => "PrivilegeEscalationError"

/-- The wording of an error. -/
def message : Error → String
  | general m _ => m
  | validation m _ => m
  | configuration key value reason _ =>
    "Invalid " ++ key ++ " '" ++ value.display ++ "': " ++ reason
  | manifest path reason _ => "Cannot load manifest " ++ path ++ ": " ++ reason
  | escalation e => e.message

/-- The details of an error. -/
def details : Error → Fields
  | general _ d => d
  | validation _ d => d
  | configuration key value _ d =>
    Fields.over [("config_key", .text key), ("value", value)] d
  | manifest path _ d => Fields.over [("path", .text path)] d
  | escalation e => [("role", .text e.role), ("rule", e.rule.toValue)]

/-- The error as a document. -/
def toValue (e : Error) : Value :=
  .record [("error_code", .text e.code), ("message", .text e.message),
    ("details", .record e.details)]

end Error

end RoleGuard

import RoleGuard.CommandLine.Form

/-! # The Commands

    The forms of the program itself and of its three commands, with the
    texts that explain them.
-/

namespace RoleGuard.CommandLine

/-- The formats of reports. -/
inductive Format where
  /-- plain text -/
  | text
  /-- JSON -/
  | json
deriving DecidableEq, Repr, Inhabited

/-- The name of a format. -/
def Format.name : Format → String
  | text => "text"
  | json => "json"

/-- The option for the manifest of the operator. -/
def operatorRoleOption : OptionForm where
  name := "--operator-role"
  help := ["  --operator-role OPERATOR_ROLE",
    "                        Operator ClusterRole manifest (default:",
    "                        config/rbac/role.yaml)"]

/-- The option for the directory of manifests. -/
def manifestDirOption : OptionForm where
  name := "--manifest-dir"
  help := ["  --manifest-dir MANIFEST_DIR",
    "                        Base directory of the role catalog"]

/-- The option for the manifests of roles. -/
def rolesOption : OptionForm where
  name := "--role"
  help := ["  --role ROLE           Role manifest to check (repeatable); overrides the",
    "                        catalog"]

/-- The option for the manifest of one role. -/
def roleOption : OptionForm where
  name := "--role"
  help := ["  --role ROLE           Role manifest"]
  required := true

/-- The option for the format. -/
def formatOption : OptionForm where
  name := "--format"
  help := ["  --format \x7btext,json\x7d"]
  choices := [Format.text.name, Format.json.name]

/-- The option for the level of messages. -/
def logLevelOption : OptionForm where
  name := "--log-level"
  help := ["  --log-level LOG_LEVEL", "                        Logging level"]

/-- The form of the program. -/
def programForm : Form where
  title := "grantcheck"
  usage := "usage: grantcheck [-h] [--log-level LOG_LEVEL] \x7bvalidate,audit,suggest\x7d ...\n"
  about := ["Check that an operator can create the roles it ships without privilege",
    "escalation.",
    "",
    "positional arguments:",
    "  \x7bvalidate,audit,suggest\x7d",
    "    validate            Validate role creation",
    "    audit               Check operator rules for anti-patterns",
    "    suggest             Print annotations for one role",
    ""]
  options := [logLevelOption]

/-- The form of the command that checks roles. -/
def validateForm : Form where
  title := "grantcheck validate"
  usage := "usage: grantcheck validate [-h] [--operator-role OPERATOR_ROLE]\n"
    ++ "                           [--manifest-dir MANIFEST_DIR] [--role ROLE]\n"
    ++ "                           [--format \x7btext,json\x7d]\n"
  about := []
  options := [operatorRoleOption, manifestDirOption, rolesOption, formatOption]

/-- The form of the command that audits the rules of the operator. -/
def auditForm : Form where
  title := "grantcheck audit"
  usage := "usage: grantcheck audit [-h] [--operator-role OPERATOR_ROLE]\n"
    ++ "                        [--format \x7btext,json\x7d]\n"
  about := []
  options := [operatorRoleOption, formatOption]

/-- The form of the command that suggests annotations. -/
def suggestForm : Form where
  title := "grantcheck suggest"
  usage := "usage: grantcheck suggest [-h] [--operator-role OPERATOR_ROLE] --role ROLE\n"
  about := []
  options := [operatorRoleOption, roleOption]

end RoleGuard.CommandLine

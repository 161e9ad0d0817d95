import RoleGuard.Grantor
import RoleGuard.Value

/-! # Coverage Reports

    The outcome of checking a list of roles: which were checked, and for
    each role that cannot be created the first escalation, all missing rules
    and the annotations that would ask for them.
-/

namespace RoleGuard

/-- The failure of one role. -/
structure Finding where
  /-- name of the role -/
  role : String
  /-- wording of the first escalation -/
  error : String
  /-- the rules that are not covered -/
  missing : List Rule
  /-- the annotations that ask for them -/
  suggestions : List String
deriving DecidableEq, Repr, Inhabited

/-- The outcome of checking roles. -/
structure Report where
  /-- names of the checked roles, in order -/
  checked : List String
  /-- the failures, in the order of the roles -/
  findings : List Finding
deriving DecidableEq, Repr, Inhabited

namespace Grantor

/-- The failure of one role, if it has one. -/
def finding? (g : Grantor) (q : Request) : Option Finding :=
  (g.check q).map fun e => ⟨q.name, e.message, g.missing q, g.suggest (g.missing q)⟩

/-- The outcome of checking roles in order. -/
def report (g : Grantor) (qs : List Request) : Report :=
  ⟨qs.map Request.name, qs.filterMap g.finding?⟩

end Grantor

/-- The fields of a rule as manifests name them; instance names only when there are any. -/
def Rule.toValue (r : Rule) : Value :=
  .record <|
    [("apiGroups", .texts r.apiGroups), ("resources", .texts r.resources),
      ("verbs", .texts r.verbs)]
      ++ (if r.resourceNames.isEmpty then [] else [("resourceNames", .texts r.resourceNames)])

/-- The fields of a finding. -/
def Finding.toValue (f : Finding) : Value :=
  .record [("role", .text f.role), ("error", .text f.error),
    ("missing", .list (f.missing.map Rule.toValue)), ("suggestions", .texts f.suggestions)]

namespace Report

/-- Every checked role can be created. -/
def ok (r : Report) : Bool :=
  r.findings.isEmpty

/-- The number of roles that cannot be created. -/
def errorCount (r : Report) : Nat :=
  r.findings.length

/-- The report as a document. -/
def toValue (r : Report) : Value :=
  .record [("ok", .bool r.ok), ("checked", .texts r.checked), ("errors", .int r.errorCount),
    ("findings", .list (r.findings.map Finding.toValue))]

/-- What to do about missing permissions. -/
def remediationHint : String :=
  "Add the missing permissions to the operator's ClusterRole (config/rbac/role.yaml), "
    ++ "regenerate manifests and re-run validation."

/-- The lines on what would fix one role. -/
def remedyLines (f : Finding) : List String :=
  ("Missing permissions for role " ++ f.role ++ ":") :: f.suggestions.map fun s => "  Add: " ++ s

/-- The lines of a report: one for each failure, then the remedies, then the hint. -/
def lines (r : Report) : List String :=
  if r.ok then ["RBAC validation passed for " ++ toString r.checked.length ++ " role(s)"]
  else
    ("RBAC validation failed with " ++ toString r.errorCount ++ " error(s):")
      :: (r.findings.map fun f => "  - " ++ f.error)
      ++ r.findings.flatMap remedyLines ++ [remediationHint]

/-- The report as plain text. -/
def text (r : Report) : String :=
  "\n".intercalate r.lines

end Report

end RoleGuard

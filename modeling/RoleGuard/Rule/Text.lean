import RoleGuard.Rule

/-! # The Text of a Rule

    Two written forms of a rule: a bracketed one for messages, and the
    marker annotation that a developer adds to ask for the rule.
-/

namespace RoleGuard

/-- What is written for the core group. -/
def coreGroupToken : String := "\"\""

/-- What stands before an annotation unless another marker is chosen. -/
def defaultMarker : String := "//+kubebuilder:"

/-- Values in brackets, separated by blanks; an empty value is written as the core group. -/
def bracket (values : List String) : String :=
  "[" ++ " ".intercalate (values.map fun v => if v = "" then coreGroupToken else v) ++ "]"

/-- Values separated by semicolons. -/
def joined (values : List String) : String :=
  ";".intercalate values

namespace Rule

/-- The rule as messages show it. Instance names are left out. -/
def summary (r : Rule) : String :=
  "APIGroups:" ++ bracket r.apiGroups ++ " Resources:" ++ bracket r.resources
    ++ " Verbs:" ++ bracket r.verbs

/-- The groups clause of an annotation; an empty clause is written as the core group. -/
def groupsClause (r : Rule) : String :=
  let groups := joined r.apiGroups
  if groups = "" then coreGroupToken else groups

/-- The annotation that asks for the rule. Instance names are written only when there are any. -/
def annotation (marker : String) (r : Rule) : String :=
  marker ++ "rbac:groups=" ++ r.groupsClause ++ ",resources=" ++ joined r.resources
    ++ ",verbs=" ++ joined r.verbs
    ++ (if r.resourceNames.isEmpty then "" else ",resourceNames=" ++ joined r.resourceNames)

end Rule

end RoleGuard

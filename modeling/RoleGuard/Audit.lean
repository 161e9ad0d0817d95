import RoleGuard.Rule

/-! # Audit

    Advice on a set of held rules: wildcards, verbs that are worth a second
    look, and resources that should be named but are not. Advice never fails
    anything.
-/

namespace RoleGuard

/-- How serious an observation is. -/
inductive Severity where
  /-- a grant that is too wide -/
  | warning
  /-- a grant worth a look -/
  | info
deriving DecidableEq, Repr

/-- The word for a severity. -/
def Severity.word : Severity → String
  | warning => "warning"
  | info => "info"

/-- One observation about a held rule. -/
structure Observation where
  /-- how serious it is -/
  severity : Severity
  /-- position of the rule -/
  index : Nat
  /-- what was observed -/
  message : String
deriving DecidableEq, Repr

namespace Audit

/-- Verbs that destroy or escalate. -/
def defaultDangerousVerbs : List String :=
  ["delete", "deletecollection", "escalate", "impersonate"]

/-- Resources that an operator is expected to hold. -/
def defaultRequiredResources : List String := ["serviceaccounts/token"]

/-- The observation of a wildcard on one axis. -/
def wildcardOn (i : Nat) (axis advice : String) : Observation :=
  ⟨.warning, i, "Rule " ++ toString i ++ " has wildcard " ++ axis ++ " '*' - consider " ++ advice⟩

/-- The observation of a dangerous verb. -/
def dangerous (i : Nat) (verb : String) : Observation :=
  ⟨.info, i, "Rule " ++ toString i ++ " has potentially dangerous permission '" ++ verb
    ++ "' - verify this is needed"⟩

/-- The observations about one rule: a wildcard on each axis that has one,
    then every occurrence of a dangerous verb. -/
def ofRule (verbs : List String) (i : Nat) (r : Rule) : List Observation :=
  (if r.apiGroups.contains wildcard then [wildcardOn i "API group" "being more specific"] else [])
    ++ (if r.resources.contains wildcard then
          [wildcardOn i "resource" "being more specific"] else [])
    ++ (if r.verbs.contains wildcard then
          [wildcardOn i "verb" "principle of least privilege"] else [])
    ++ (r.verbs.filter fun v => verbs.contains v).map (dangerous i)

/-- The observations about rules whose first one has position `i`. -/
def ofRulesFrom (verbs : List String) : Nat → List Rule → List Observation
  | _, [] => []
  | i, r :: rs => ofRule verbs i r ++ ofRulesFrom verbs (i + 1) rs

/-- The observations about a list of rules, in the order of the rules. -/
def ofRules (rules : List Rule) (verbs : List String) : List Observation :=
  ofRulesFrom verbs 0 rules

/-- The rule names the resource, by itself or through the wildcard. -/
def names (r : Rule) (resource : String) : Bool :=
  r.resources.contains resource || r.resources.contains wildcard

/-- The required resources that no rule names. -/
def missingResources (rules : List Rule) (required : List String) : List String :=
  required.filter fun resource => !rules.any fun r => names r resource

end Audit

end RoleGuard

/-! # Policy Rules

    A rule names API groups, resources and verbs, each axis by itself, and
    may be narrowed to named instances. Values keep the order in which they
    were written, so that a rule can be shown back as it was given.
-/

namespace RoleGuard

/-- One authorization rule. -/
structure Rule where
  /-- API groups; the empty text is the core group -/
  apiGroups : List String
  /-- resource types; a sub-resource is one token with a slash -/
  resources : List String
  /-- allowed actions -/
  verbs : List String
  /-- named instances; none means all instances -/
  resourceNames : List String
deriving DecidableEq, Repr, Inhabited

/-- The value that stands for every value of its axis. -/
def wildcard : String := "*"

namespace Rule

/-- No axis of the rule is void: it asks for some group, some resource and some verb. -/
structure AsksOnEachAxis (r : Rule) : Prop where
  /-- API groups -/
  apiGroups : r.apiGroups ≠ []
  /-- resource types -/
  resources : r.resources ≠ []
  /-- actions -/
  verbs : r.verbs ≠ []

end Rule

end RoleGuard

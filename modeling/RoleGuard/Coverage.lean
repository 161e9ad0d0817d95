import RoleGuard.Rule

/-! # Coverage

    A granted rule covers a requested rule when it covers it on every axis
    at once. Values are compared literally, apart from the wildcard; there
    is no hierarchy, so a resource does not cover its sub-resources.
-/

namespace RoleGuard

/-- Every asked value is held, or the wildcard is. -/
def coversValues (held asked : List String) : Bool :=
  held.contains wildcard || asked.all fun value => held.contains value

/-- A grant without names is unrestricted. A grant with names covers a
    request for all instances only when it names the wildcard. -/
def coversNames (held asked : List String) : Bool :=
  if held.isEmpty then true
  else if asked.isEmpty then held.contains wildcard
  else coversValues held asked

/-- The granted rule covers the asked rule on all four axes. -/
def Rule.covers (granted asked : Rule) : Bool :=
  coversValues granted.apiGroups asked.apiGroups
    && coversValues granted.resources asked.resources
    && coversValues granted.verbs asked.verbs
    && coversNames granted.resourceNames asked.resourceNames

end RoleGuard

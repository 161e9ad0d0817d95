import RoleGuard.Rule

/-! # Accesses

    What a rule permits, said without reference to other rules: an access
    is one group, one resource, one verb and at most one instance name, and
    a rule allows it or does not.
-/

namespace RoleGuard

/-- One attempt to act on a resource. -/
structure Access where
  /-- API group of the resource -/
  apiGroup : String
  /-- resource type -/
  resource : String
  /-- attempted action -/
  verb : String
  /-- the instance acted on, none for the collection as a whole -/
  name : Option String
deriving DecidableEq, Repr

/-- An axis admits a value that it lists, and every value when it lists the wildcard. -/
def admits (axis : List String) (value : String) : Prop :=
  value ∈ axis ∨ wildcard ∈ axis

/-- Names admit every access when there are none or the wildcard is among
    them, otherwise only an access to an instance that they list. -/
def admitsName (names : List String) (name : Option String) : Prop :=
  names = [] ∨ wildcard ∈ names ∨ ∃ n, name = some n ∧ n ∈ names

/-- The rule allows the access. -/
def Rule.allows (r : Rule) (a : Access) : Prop :=
  admits r.apiGroups a.apiGroup ∧ admits r.resources a.resource ∧ admits r.verbs a.verb
    ∧ admitsName r.resourceNames a.name

end RoleGuard

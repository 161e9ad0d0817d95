import RoleGuard.Rule

/-! # Grant Requests

    A named set of rules that somebody wants to create.
-/

namespace RoleGuard

/-- The role to be created. -/
structure Request where
  /-- name of the role -/
  name : String
  /-- namespace of the role, if it has one -/
  namespaceName : Option String
  /-- the kind of role -/
  kind : String
  /-- the rules that the role holds -/
  rules : List Rule
deriving DecidableEq, Repr, Inhabited

/-- The kinds of document that hold a role. -/
def roleKinds : List String := ["Role", "ClusterRole"]

end RoleGuard

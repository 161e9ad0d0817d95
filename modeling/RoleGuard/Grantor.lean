import RoleGuard.Coverage
import RoleGuard.Request
import RoleGuard.Rule.Text

/-! # Grantors

    A grantor holds rules and hands them on. It may create a role only when
    each rule of the role is covered by one of its own rules, since the role
    would otherwise hold permissions that the grantor lacks.
-/

namespace RoleGuard

/-- Somebody who holds rules. -/
structure Grantor where
  /-- the rules held -/
  granted : List Rule
  /-- what stands before suggested annotations -/
  marker : String := defaultMarker
deriving DecidableEq, Repr, Inhabited

/-- The attempt to hand on a rule that is not held. -/
structure Escalation where
  /-- name of the role that was asked for -/
  role : String
  /-- the rule that no held rule covers -/
  rule : Rule
deriving DecidableEq, Repr, Inhabited

/-- The wording of an escalation. -/
def Escalation.message (e : Escalation) : String :=
  "operator cannot create role " ++ e.role ++ ": missing permissions for " ++ e.rule.summary

namespace Grantor

/-- Some held rule covers the asked one. -/
def canGrant (g : Grantor) (asked : Rule) : Bool :=
  g.granted.any fun held => held.covers asked

/-- The escalation at the first rule of the request that no held rule covers. -/
def check (g : Grantor) (q : Request) : Option Escalation :=
  (q.rules.find? fun r => !g.canGrant r).map fun r => ⟨q.name, r⟩

/-- The escalations of all requests that have one, in order. -/
def checkAll (g : Grantor) (qs : List Request) : List Escalation :=
  qs.filterMap g.check

/-- Creation of a role: it succeeds, or fails with the first escalation. -/
def validate (g : Grantor) (q : Request) : Except Escalation Unit :=
  match g.check q with
  | some e => .error e
  | none => .ok ()

/-- The rules of the request that no held rule covers, in order and with repetitions. -/
def missing (g : Grantor) (q : Request) : List Rule :=
  q.rules.filter fun r => !g.canGrant r

/-- The annotations that would ask for the rules, one for each. -/
def suggest (g : Grantor) (rules : List Rule) : List String :=
  rules.map (Rule.annotation g.marker)

end Grantor

end RoleGuard

import RoleGuard.Rule
import RoleGuard.Schema

/-! # Reading Rules

    A rule is read from a mapping. Each of its four fields is absent, null
    or a list of texts; the spelling of manifests is preferred to the
    spelling with underscores, and other keys are ignored.
-/

namespace RoleGuard

namespace Rule

/-- Reads one axis of a rule. -/
def readAxis (location : List Step) (names : List String) (entries : List (Value × Value)) :
    Checked (List String) :=
  Schema.optional [] (Schema.items .tuple Schema.text) location names entries

/-- Reads a rule at a location. -/
def readAt (location : List Step) : Value → Checked Rule
  | .map entries =>
    (Checked.both (readAxis location ["apiGroups", "api_groups"] entries) <|
      Checked.both (readAxis location ["resources"] entries) <|
      Checked.both (readAxis location ["verbs"] entries)
        (readAxis location ["resourceNames", "resource_names"] entries)).map
      fun p => ⟨p.1, p.2.1, p.2.2.1, p.2.2.2⟩
  | _ => Checked.fault location (.model .rule)

/-- Reads a rule. -/
def ofValue? (v : Value) : Except Rejection Rule :=
  (readAt [] v).mapError fun faults => ⟨.rule, faults⟩

/-- The refusal to change a field of a rule. -/
def frozen (field : String) : Rejection :=
  ⟨.rule, [⟨[.field field], .frozen⟩]⟩

end Rule

end RoleGuard

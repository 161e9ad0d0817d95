import RoleGuard.Error
import RoleGuard.Request
import RoleGuard.Rule.Reader
import RoleGuard.Value.Shown

/-! # Reading Requests

    A request is read from a mapping of its own fields, or from a manifest
    document whose kind is a role. A document of another kind, or one with
    faults, is refused as a whole.
-/

namespace RoleGuard

namespace Request

/-- Reads the rules of a request. -/
def readRules (location : List Step) (entries : List (Value × Value)) : Checked (List Rule) :=
  Schema.optional [] (Schema.items .tuple Rule.readAt) location ["rules"] entries

/-- Reads a request from the fields of a mapping. -/
def readFields (entries : List (Value × Value)) : Checked Request :=
  (Checked.both (Schema.required Schema.text [] "name" entries) <|
    Checked.both
      (Schema.optional none (fun l v => (Schema.text l v).map some) [] ["namespace"] entries) <|
    Checked.both (Schema.defaulted "Role" Schema.text [] "kind" entries)
      (readRules [] entries)).map
    fun p => ⟨p.1, p.2.1, p.2.2.1, p.2.2.2⟩

/-- Reads a request. -/
def ofValue? : Value → Except Rejection Request
  | .map entries => (readFields entries).mapError fun faults => ⟨.request, faults⟩
  | _ => .error ⟨.request, [⟨[], .model .request⟩]⟩

/-- The refusal to change a field of a request. -/
def frozen (field : String) : Rejection :=
  ⟨.request, [⟨[.field field], .frozen⟩]⟩

/-- The role kind that a kind field names. -/
def roleKind? : Value → Option String
  | .text k => if roleKinds.contains k then some k else none
  | _ => none

/-- The kind of a document; a document without one is a role. -/
def kindOf (entries : List (Value × Value)) : Value :=
  (Value.lookup "kind" entries).getD (.text "Role")

/-- The fields of the metadata of a document; absent or empty metadata has none. -/
def metadataOf (entries : List (Value × Value)) : Except Defect (List (Value × Value)) :=
  match Value.lookup "metadata" entries with
  | none => .ok []
  | some (.map fields) => .ok fields
  | some v => if v.isEmpty then .ok [] else .error (.fieldless v.fullKindName)

/-- The refusal with a message that shows a value. A value that cannot be shown is a defect. -/
def refusal (limits : Value.Limits) (v : Value) (e : String → Error) : Refusal :=
  match v.shown limits Value.inspect with
  | .ok text => .reported (e text)
  | .error d => .defect d

theorem refusal_eq_defect {limits : Value.Limits} {v : Value} {f : String → Error} {d : Defect} :
    refusal limits v f = .defect d ↔ v.obstacle? limits = some d := by
  unfold refusal
  cases hshown : v.shown limits Value.inspect with
  | ok text => simp [(Value.shown_eq_ok.mp hshown).1]
  | error d' => simp [Value.shown_eq_error.mp hshown]

theorem refusal_eq_reported {limits : Value.Limits} {v : Value} {f : String → Error} {e : Error} :
    refusal limits v f = .reported e ↔ v.obstacle? limits = none ∧ f v.inspect = e := by
  unfold refusal
  cases hshown : v.shown limits Value.inspect with
  | ok text =>
    obtain ⟨hnone, rfl⟩ := Value.shown_eq_ok.mp hshown
    simp [hnone]
  | error d => simp [Value.shown_eq_error.mp hshown]

/-- The refusal of a document of a kind that is no role. -/
def unsupported (limits : Value.Limits) (kind : Value) : Refusal :=
  refusal limits kind fun text =>
    .validation ("Unsupported manifest kind " ++ text)
      [("kind", kind), ("supported", .texts roleKinds)]

/-- The refusal of a role for its faults. -/
def invalid (limits : Value.Limits) (kind : String) (name : Value) (faults : List Fault) :
    Refusal :=
  refusal limits name fun text =>
    .validation
      ("Invalid " ++ kind ++ " manifest " ++ text ++ ": "
        ++ (Rejection.mk .request faults).message)
      [("kind", .text kind), ("errors", .list (faults.map Fault.toValue))]

/-- The name in the metadata of a document; a document without one has an empty name. -/
def nameOf (metadata : List (Value × Value)) : Value :=
  (Value.lookup "name" metadata).getD (.text "")

/-- A request that its manifest states. -/
def ofRoleDocument (limits : Value.Limits) (kind : String)
    (metadata entries : List (Value × Value)) : Except Refusal Request :=
  -- an absent name is empty, but a null one is a fault; for namespace and rules null is absence
  let fields : List (Value × Value) :=
    [(.text "name", nameOf metadata),
     (.text "namespace", (Value.lookup "namespace" metadata).getD .null),
     (.text "kind", .text kind),
     (.text "rules", (Value.lookup "rules" entries).getD .null)]
  (readFields fields).mapError (invalid limits kind (nameOf metadata))

/-- Reads a request from a manifest document. -/
def ofManifest (limits : Value.Limits) : Value → Except Refusal Request
  | .map entries =>
    match roleKind? (kindOf entries) with
    | none => .error (unsupported limits (kindOf entries))
    | some kind =>
      match metadataOf entries with
      | .error d => .error (.defect d)
      | .ok metadata => ofRoleDocument limits kind metadata entries
  | v =>
    .error <| .reported <| .validation "Manifest document must be a mapping"
      [("type", .text v.kindName)]

theorem ofManifest_map (limits : Value.Limits) (entries : List (Value × Value)) :
    ofManifest limits (.map entries) =
      match roleKind? (kindOf entries) with
      | none => .error (unsupported limits (kindOf entries))
      | some kind =>
        match metadataOf entries with
        | .error d => .error (.defect d)
        | .ok metadata => ofRoleDocument limits kind metadata entries := by
  rfl

end Request

end RoleGuard

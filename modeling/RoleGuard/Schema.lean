import RoleGuard.Text.Utf8
import RoleGuard.Value

/-! # Reading Records from Values

    Records are read from document values. A value that does not fit is a
    fault with its location; all faults of a value are reported, in the
    order of the fields and then of the positions.
-/

namespace RoleGuard

/-- The records that are read from values. -/
inductive Model where
  /-- a policy rule -/
  | rule
  /-- a grant request -/
  | request
  /-- a finding of a report -/
  | finding
  /-- a coverage report -/
  | report
  /-- the settings -/
  | settings
deriving DecidableEq, Repr

/-- The name of a record in messages. -/
def Model.name : Model → String
  | rule => "PolicyRule"
  | request => "GrantRequest"
  | finding => "RoleFinding"
  | report => "CoverageReport"
  | settings => "GrantCheckConfig"

/-- A step from a value to a part of it. -/
inductive Step where
  /-- to a field -/
  | field (name : String)
  /-- to an item -/
  | item (index : Nat)
deriving DecidableEq, Repr

/-- What is wrong with a value. -/
inductive Mismatch where
  /-- a text is needed -/
  | text
  /-- a text is needed, and the bytes are not UTF-8 -/
  | textBytes
  /-- a fixed sequence is needed -/
  | tuple
  /-- a list is needed -/
  | list
  /-- the field is needed -/
  | missing
  /-- a mapping is needed -/
  | model (m : Model)
  /-- the record cannot be changed -/
  | frozen
deriving DecidableEq, Repr

/-- A mismatch and the place where it was found. -/
structure Fault where
  /-- the steps that lead there -/
  location : List Step
  /-- what is wrong -/
  mismatch : Mismatch
deriving DecidableEq, Repr

/-- The code of a mismatch. -/
def Mismatch.code : Mismatch → String
  | text => "string_type"
  | textBytes => "string_unicode"
  | tuple => "tuple_type"
  | list => "list_type"
  | missing => "missing"
  | model _ => "model_type"
  | frozen => "frozen_instance"

/-- The wording of a mismatch. -/
def Mismatch.message : Mismatch → String
  | text => "Input should be a valid string"
  | textBytes => "Input should be a valid string, unable to parse raw data as a unicode string"
  | tuple => "Input should be a valid tuple"
  | list => "Input should be a valid list"
  | missing => "Field required"
  | model m => "Input should be a valid dictionary or instance of " ++ m.name
  | frozen => "Instance is frozen"

/-- A step as a value. -/
def Step.toValue : Step → Value
  | field name => .text name
  | item index => .int index

/-- A fault as a value. -/
def Fault.toValue (f : Fault) : Value :=
  .record [("type", .text f.mismatch.code), ("loc", .list (f.location.map Step.toValue)),
    ("msg", .text f.mismatch.message)]

/-- A record that could not be read. -/
structure Rejection where
  /-- the record -/
  model : Model
  /-- the faults, at least one -/
  faults : List Fault
deriving DecidableEq, Repr

namespace Rejection

/-- The number of faults and the record they are faults of. -/
def headline (r : Rejection) : String :=
  toString r.faults.length
    ++ (if r.faults.length = 1 then " validation error for " else " validation errors for ")
    ++ r.model.name

/-- The location of a fault with points between the steps. -/
def place (steps : List Step) : String :=
  ".".intercalate (steps.map fun s => match s with
    | .field name => name
    | .item index => toString index)

/-- The headline and a line for each fault. -/
def message (r : Rejection) : String :=
  "\n".intercalate
    (r.headline :: r.faults.map fun f => "  " ++ place f.location ++ ": " ++ f.mismatch.message)

end Rejection

/-- A value that was read, or all faults that were found. -/
abbrev Checked (α : Type) := Except (List Fault) α

namespace Checked

/-- Two readings side by side; the faults of the first come first. -/
def both {α β : Type} : Checked α → Checked β → Checked (α × β)
  | .ok a, .ok b => .ok (a, b)
  | .ok _, .error f => .error f
  | .error e, .ok _ => .error e
  -- nothing is lost when both fail
  | .error e, .error f => .error (e ++ f)

/-- Readings side by side. -/
def all {α : Type} : List (Checked α) → Checked (List α)
  | [] => .ok []
  | c :: cs => (both c (all cs)).map fun p => p.1 :: p.2

/-- The fault at a location. -/
def fault {α : Type} (location : List Step) (mismatch : Mismatch) : Checked α :=
  .error [⟨location, mismatch⟩]

end Checked

namespace Schema

/-- Reads a text. Bytes count as the text they encode. -/
def text (location : List Step) : Value → Checked String
  | .text s => .ok s
  | .bytes content => match Text.Utf8.decode content with
    | .ok s => .ok s
    | .error _ => Checked.fault location .textBytes
  | _ => Checked.fault location .text

/-- Reads items whose first one has position `i`. -/
def itemsFrom {α : Type} (read : List Step → Value → Checked α) (location : List Step) :
    Nat → List Value → Checked (List α)
  | _, [] => .ok []
  | i, v :: vs =>
    (Checked.both (read (location ++ [.item i]) v) (itemsFrom read location (i + 1) vs)).map
      fun p => p.1 :: p.2

/-- Reads the items of a list or set; `mismatch` is the fault of anything else. -/
def items {α : Type} (mismatch : Mismatch) (read : List Step → Value → Checked α)
    (location : List Step) : Value → Checked (List α)
  | .list vs => itemsFrom read location 0 vs
  | .set vs => itemsFrom read location 0 vs
  | _ => Checked.fault location mismatch

/-- The first of several spellings of a field that is present, with its value. -/
def spelling (names : List String) (entries : List (Value × Value)) : Option (String × Value) :=
  names.findSome? fun name => (Value.lookup name entries).map fun v => (name, v)

/-- Reads a field that may be absent or null under any of its spellings. -/
def optional {α : Type} (default : α) (read : List Step → Value → Checked α)
    (location : List Step) (names : List String) (entries : List (Value × Value)) : Checked α :=
  match spelling names entries with
  | none => .ok default
  -- the first spelling that is present decides, even when it is null
  | some (_, .null) => .ok default
  | some (name, v) => read (location ++ [.field name]) v

/-- Reads a field that may be absent but not null. -/
def defaulted {α : Type} (default : α) (read : List Step → Value → Checked α)
    (location : List Step) (name : String) (entries : List (Value × Value)) : Checked α :=
  match Value.lookup name entries with
  | none => .ok default
  | some v => read (location ++ [.field name]) v

/-- Reads a field that must be present. -/
def required {α : Type} (read : List Step → Value → Checked α)
    (location : List Step) (name : String) (entries : List (Value × Value)) : Checked α :=
  match Value.lookup name entries with
  | none => Checked.fault (location ++ [.field name]) .missing
  | some v => read (location ++ [.field name]) v

end Schema

end RoleGuard

import RoleGuard.Calendar
import RoleGuard.Decimal.Shortest

/-! # Document Values

    The values that manifests, requests and error details are made of.
    A mapping keeps the order in which its keys first arrived; writing to a
    present key replaces its value and moves nothing.
-/

namespace RoleGuard

/-- A value of a document. -/
inductive Value where
  /-- no value -/
  | null
  /-- a truth value -/
  | bool (b : Bool)
  /-- an integer of any size -/
  | int (n : Int)
  /-- a binary64 number -/
  | float (x : Float)
  /-- a text -/
  | text (s : String)
  /-- a byte string -/
  | bytes (content : List UInt8)
  /-- a day -/
  | date (d : Date)
  /-- a moment -/
  | moment (t : Moment)
  /-- a list -/
  | list (items : List Value)
  /-- a set, in the order of arrival -/
  | set (items : List Value)
  /-- a mapping, in the order of arrival of its keys -/
  | map (entries : List (Value × Value))

instance : Inhabited Value := ⟨.null⟩

namespace Value

/-- The word for the kind of a value in messages. -/
def kindName : Value → String
  | null => "NoneType"
  | bool _ => "bool"
  | int _ => "int"
  | float _ => "float"
  | text _ => "str"
  | bytes _ => "bytes"
  | date _ => "date"
  | moment _ => "datetime"
  | list _ => "list"
  | set _ => "set"
  | map _ => "dict"

/-- The word for the kind of a value, for days and moments with the family that they belong to. -/
def fullKindName : Value → String
  | date d => "datetime." ++ (date d).kindName
  | moment t => "datetime." ++ (moment t).kindName
  | v => v.kindName

/-- A value that counts as absent: no value, false, zero or empty. -/
def isEmpty : Value → Bool
  | null => true
  | bool b => !b
  | int n => n == 0
  | float x => x == 0
  | text s => s == ""
  | bytes content => content.isEmpty
  | list items => items.isEmpty
  | set items => items.isEmpty
  | map entries => entries.isEmpty
  | date _ | moment _ => false

/-- An integer and a binary64 number are the same number. -/
def intIsFloat (n : Int) (x : Float) : Bool :=
  let bits := x.toBits
  let size := bits &&& 0x7FFFFFFFFFFFFFFF
  -- infinities and what is no number are no integer
  if size ≥ 0x7FF0000000000000 then false
  else
    let d := Decimal.Dyadic.ofBits size
    let negative := bits >>> 63 == 1
    -- compare exactly, with the power of two on the side where it is whole
    decide (n.natAbs * Nat.pow 2 (-d.exponent).toNat = d.mantissa * Nat.pow 2 d.exponent.toNat)
      && (n == 0 || decide (n < 0) == negative)

/-- Two binary64 numbers are one key: equal, or both not a number. -/
def floatIsFloat (x y : Float) : Bool :=
  x == y || (x.isNaN && y.isNaN)

/-- The integer that a truth value or an integer stands for. -/
def asInt? : Value → Option Int
  | bool b => some (if b then 1 else 0)
  | int n => some n
  | _ => none

/-- Two values are one key of a mapping. Truth values and numbers are compared as numbers. -/
def sameKey (a b : Value) : Bool :=
  match a.asInt?, b.asInt? with
  | some m, some n => m == n
  | some m, none => match b with
    | float y => intIsFloat m y
    | _ => false
  | none, some n => match a with
    | float x => intIsFloat n x
    | _ => false
  | none, none => match a, b with
    | null, null => true
    | float x, float y => floatIsFloat x y
    | text s, text t => s == t
    | bytes s, bytes t => s == t
    | date d, date e => d == e
    | moment t, moment u => t.same u
    | _, _ => false

/-- Writes a value under a key. -/
def put (key value : Value) : List (Value × Value) → List (Value × Value)
  | [] => [(key, value)]
  | e :: es => if e.1.sameKey key then (e.1, value) :: es else e :: put key value es

/-- Entries with every key at its first place and with its last value. -/
def collect (entries : List (Value × Value)) : List (Value × Value) :=
  entries.foldl (fun acc e => put e.1 e.2 acc) []

/-- The value under a text key. -/
def lookup (key : String) : List (Value × Value) → Option Value
  | [] => none
  | (text k, v) :: es => if k = key then some v else lookup key es
  | _ :: es => lookup key es

/-- The field of a mapping. -/
def field? (key : String) : Value → Option Value
  | map entries => lookup key entries
  | _ => none

/-- A list of texts as a value. -/
def texts (items : List String) : Value :=
  list (items.map text)

/-- A mapping with text keys. -/
def record (fields : List (String × Value)) : Value :=
  map (fields.map fun f => (text f.1, f.2))

end Value

end RoleGuard

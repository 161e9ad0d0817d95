import RoleGuard.Decimal.Numeral
import RoleGuard.Text.Base64
import RoleGuard.Text.Lower
import RoleGuard.Value
import RoleGuard.Yaml.Problem
import RoleGuard.Yaml.Scalar

/-! # Values of Scalars

    The value that a scalar has under a tag. Underscores in numbers are
    dropped. A scalar that was given a tag which its text does not fit is a
    defect, except for binary data, where it is a problem of the text.
-/

namespace RoleGuard.Yaml

/-- The integer of a numeral, which was part of a scalar. -/
def numeralValue (base : Nat) (cs : List Char) : Except Failure Int :=
  -- a numeral that is too long is refused for that only when it is a numeral
  if base = 10 && Decimal.digitCount cs > longestNumeral && (Decimal.numeral? base cs).isSome then
    .error (.defect (.longNumeral (Decimal.digitCount cs)))
  else match Decimal.numeral? base cs with
    | some n => .ok n
    | none => .error (.defect (.numeral base (String.ofList cs)))

/-- The number of a decimal number, which was part of a scalar. -/
def decimalValue (cs : List Char) : Except Failure Float :=
  match Decimal.number? cs with
  | some x => .ok x
  | none => .error (.defect (.decimal (String.ofList cs)))

/-- Characters without underscores. -/
def withoutUnderscores (text : String) : List Char :=
  text.toList.filter (· != '_')

/-- The integer of a scalar without its sign. -/
def unsignedInt (cs : List Char) : Except Failure Int :=
  match cs with
  | [] => .error (.defect .emptyNumeral)
  | ['0'] => .ok 0
  | '0' :: 'b' :: r => numeralValue 2 r
  | '0' :: 'x' :: r => numeralValue 16 r
  | '0' :: _ => numeralValue 8 cs
  | _ =>
    if cs.contains ':' then do
      let parts ← (Text.splitChars ':' cs).mapM (numeralValue 10)
      return parts.foldl (fun n part => n * 60 + part) 0
    else numeralValue 10 cs

/-- The integer of a scalar. -/
def intValue (text : String) : Except Failure Int := do
  let cs := withoutUnderscores text
  if cs.isEmpty then throw (.defect .emptyNumeral)
  let n ← unsignedInt (withoutSign cs)
  return if cs.head? == some '-' then -n else n

/-- The parts of a number in base 60, the last one first, each weighed and added to the sum. -/
def sixtySum (sum weight : Float) : List Float → Float
  | [] => sum
  | part :: parts => sixtySum (sum + part * weight) (weight * 60) parts

/-- The number of a scalar without its sign. -/
def unsignedFloat (cs : List Char) : Except Failure Float :=
  if cs = ".inf".toList then .ok (1.0 / 0.0)
  else if cs.contains ':' then do
    let parts ← (Text.splitChars ':' cs).mapM decimalValue
    return sixtySum 0.0 1.0 parts.reverse
  else decimalValue cs

/-- The number of a scalar. -/
def floatValue (text : String) : Except Failure Float := do
  let cs := (withoutUnderscores text).flatMap Text.lowerChar
  if cs.isEmpty then throw (.defect .emptyNumeral)
  -- no number has no sign
  if withoutSign cs = ".nan".toList then return 0.0 / 0.0
  let x ← unsignedFloat (withoutSign cs)
  return if cs.head? == some '-' then -x else x

/-- The truth value of a scalar. -/
def truthValue (text : String) : Except Failure Bool :=
  let word := Text.lower text
  match truthWords.lookup word with
  | some b => .ok b
  | none => .error (.defect (.truthWord word))

/-- The bytes of a scalar. -/
def binaryValue (text : String) : Except Failure (List UInt8) :=
  if text.toList.any fun c => c.toNat ≥ 128 then .error (.problem .notBase64)
  else match Text.Base64.decode text.toList with
    | some bytes => .ok bytes
    | none => .error (.problem .notBase64)

/-- The day or moment of a scalar. -/
def stampValue (text : String) : Except Failure Value :=
  let inRange (r : Except Calendar.OutOfRange Value) : Except Failure Value :=
    r.mapError fun e => .defect (.calendar e)
  match Calendar.stamp? (withoutFinalBreak text.toList) with
  | none => .error (.defect .notMoment)
  | some s => match s.time with
    | none => inRange ((Date.of? s.year s.month s.day).map .date)
    | some t =>
      inRange ((Moment.of? s.year s.month s.day t.hour t.minute t.second
        (Calendar.fractionMicros t.fraction) t.zone).map .moment)

/-- The value of a scalar under a tag of the language; none if the tag is not for scalars. -/
def scalarValue (t : CoreTag) (text : String) : Option (Except Failure Value) :=
  match t with
  | .null => some (.ok .null)
  | .bool => some ((truthValue text).map .bool)
  | .int => some ((intValue text).map .int)
  | .float => some ((floatValue text).map .float)
  | .binary => some ((binaryValue text).map .bytes)
  | .timestamp => some (stampValue text)
  | .text => some (.ok (.text text))
  | _ => none

end RoleGuard.Yaml

import RoleGuard.Decimal.Shortest

/-! # Number Text

    The written form of a binary64 value: its shortest decimal, positional
    when the leading digit stands between the fourth place after the point
    and the sixteenth before it, otherwise with a signed exponent of at
    least two digits. A positional number always shows a point.
-/

namespace RoleGuard.Decimal

/-- `n` zeros. -/
def zeros (n : Nat) : String :=
  String.ofList (List.replicate n '0')

/-- Digits with a point after the first, none when there is only one digit. -/
def pointAfterFirst : List Char → String
  | [] => ""
  | [c] => String.ofList [c]
  | c :: cs => String.ofList (c :: '.' :: cs)

/-- An exponent with its sign and at least two digits. -/
def exponentText (e : Int) : String :=
  let digits := toString e.natAbs
  (if e < 0 then "e-" else "e+") ++ (if digits.length < 2 then "0" ++ digits else digits)

/-- A decimal written out. -/
def Scaled.render (d : Scaled) : String :=
  let digits := (toString d.digits).toList
  -- the power of ten of the first digit
  let lead : Int := d.exponent + digits.length - 1
  if -4 ≤ lead && lead < 16 then
    if d.exponent ≥ 0 then String.ofList digits ++ zeros d.exponent.toNat ++ ".0"
    -- the point falls within the digits, or zeros stand before all of them
    else if lead ≥ 0 then
      let whole := (lead + 1).toNat
      String.ofList (digits.take whole) ++ "." ++ String.ofList (digits.drop whole)
    else "0." ++ zeros (-lead - 1).toNat ++ String.ofList digits
  else pointAfterFirst digits ++ exponentText lead

/-- A number written out. -/
def render (x : Float) : String :=
  let bits := x.toBits
  let sign := if bits >>> 63 == 1 then "-" else ""
  let size := bits &&& 0x7FFFFFFFFFFFFFFF
  if x.isNaN then "nan"
  else if size == 0x7FF0000000000000 then sign ++ "inf"
  else if size == 0 then sign ++ "0.0"
  else sign ++ (Dyadic.ofBits size).shortest.render

end RoleGuard.Decimal

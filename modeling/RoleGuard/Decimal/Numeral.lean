import RoleGuard.Text.Blank
import RoleGuard.Text.Digit

/-! # Reading Numbers

    Numerals of a base and decimal numbers with fraction and exponent, as
    people write them: blanks at the ends, a sign, and digits of any script.
-/

namespace RoleGuard.Decimal

/-- The number that a digit of a base stands for. -/
def digitOf? (base : Nat) (c : Char) : Option Nat :=
  let n := c.toNat
  let value? :=
    if 97 ≤ n && n ≤ 122 then some (n - 87)
    else if 65 ≤ n && n ≤ 90 then some (n - 55)
    else Text.digitValue? c
  value?.filter (· < base)

/-- The number that digits of a base stand for; there is at least one. -/
def digits? (base : Nat) (cs : List Char) : Option Nat :=
  if cs.isEmpty then none
  else cs.foldlM (fun n c => (digitOf? base c).map (n * base + ·)) 0

/-- A sign and what follows it; `true` stands for minus. -/
def splitSign : List Char → Bool × List Char
  | '-' :: cs => (true, cs)
  | '+' :: cs => (false, cs)
  | cs => (false, cs)

/-- The letters that may stand after a zero in front of a numeral of a base. -/
def baseMarks (base : Nat) : List Char :=
  if base = 2 then ['b', 'B'] else if base = 8 then ['o', 'O'] else if base = 16 then ['x', 'X']
  else []

/-- A numeral without the mark of its base. -/
def dropMark (base : Nat) : List Char → List Char
  | '0' :: m :: cs => if (baseMarks base).contains m then cs else '0' :: m :: cs
  | cs => cs

/-- The integer that a numeral of a base stands for. -/
def numeral? (base : Nat) (cs : List Char) : Option Int :=
  let (negative, cs) := splitSign (Text.trimChars cs)
  (digits? base (dropMark base cs)).map fun n => if negative then -(n : Int) else n

/-- The number of digits of a numeral of base ten. -/
def digitCount (cs : List Char) : Nat :=
  (splitSign (Text.trimChars cs)).2.length

/-- The binary64 value nearest to `n * 10 ^ e`. -/
def nearest (n : Nat) (e : Int) : Float :=
  -- far outside of the range of binary64 the result is known without the power of ten
  let size : Int := (toString n).length + e
  if n = 0 || size < -340 then 0.0
  else if size > 320 then 1.0 / 0.0
  else Float.ofScientific n (e < 0) e.natAbs

/-- The exponent of a decimal number, 0 if there is none. -/
def exponent? : List Char → Option Int
  | [] => some 0
  | c :: cs =>
    if c = 'e' || c = 'E' then
      let (negative, cs) := splitSign cs
      (digits? 10 cs).map fun n => if negative then -(n : Int) else n
    else none

/-- The value of a decimal number without its sign. -/
def unsigned? (cs : List Char) : Option Float :=
  let whole := cs.takeWhile Text.isDigit
  let rest := cs.dropWhile Text.isDigit
  let (fraction, rest) := match rest with
    | '.' :: r => (r.takeWhile Text.isDigit, r.dropWhile Text.isDigit)
    | r => ([], r)
  do
    -- the point moves by one place for each digit of the fraction
    let n ← digits? 10 (whole ++ fraction)
    let e ← exponent? rest
    return nearest n (e - fraction.length)

/-- The value of a word for infinity or for no number at all. -/
def wordValue? (cs : List Char) : Option Float :=
  let word := cs.map Char.toLower
  if word = "inf".toList || word = "infinity".toList then some (1.0 / 0.0)
  else if word = "nan".toList then some (0.0 / 0.0)
  else none

/-- The value of a decimal number. -/
def number? (cs : List Char) : Option Float :=
  let (negative, cs) := splitSign (Text.trimChars cs)
  ((wordValue? cs).orElse fun _ => unsigned? cs).map fun x => if negative then -x else x

end RoleGuard.Decimal

/-! # Shortest Decimals

    A finite binary64 value stands for the interval of reals that round to
    it. This module finds the decimal with the fewest digits in that
    interval, and of those the one nearest to the value, in exact integer
    arithmetic: for each digit count it tests the two neighbours of the
    value on the decimal grid of that count.
-/

namespace RoleGuard.Decimal

/-- A positive value `mantissa * 2 ^ exponent`. -/
structure Dyadic where
  /-- the significant bits -/
  mantissa : Nat
  /-- the power of two they are scaled by -/
  exponent : Int
  /-- the next value below is half as far away as the next one above -/
  closeBelow : Bool

/-- A decimal `digits * 10 ^ exponent`. -/
structure Scaled where
  /-- the significant digits, read as a number -/
  digits : Nat
  /-- the power of ten they are scaled by -/
  exponent : Int
deriving Repr, DecidableEq

/-- The value that the bits of a finite number encode, without its sign. -/
def Dyadic.ofBits (bits : UInt64) : Dyadic :=
  let biased := ((bits >>> 52) &&& 0x7FF).toNat
  let fraction := (bits &&& 0xFFFFFFFFFFFFF).toNat
  -- below the normal range there is no hidden bit and the spacing no longer shrinks
  if biased = 0 then ⟨fraction, -1074, false⟩
  else ⟨Nat.pow 2 52 + fraction, (biased : Int) - 1075, fraction = 0 && biased > 1⟩

/-- Compares `a * 10 ^ i` with `b * 2 ^ j` exactly. -/
def compareScaled (a : Nat) (i : Int) (b : Nat) (j : Int) : Ordering :=
  compare (a * Nat.pow 10 i.toNat * Nat.pow 2 (-j).toNat)
    (b * Nat.pow 2 j.toNat * Nat.pow 10 (-i).toNat)

/-- The decimal lies in the interval of the value. The interval reaches half
    way to the two neighbours; its ends belong to it when the mantissa is even. -/
def Dyadic.contains (x : Dyadic) (d : Scaled) : Bool :=
  -- everything in quarters of the last bit, so that half distances are whole numbers
  let low := if x.closeBelow then 4 * x.mantissa - 1 else 4 * x.mantissa - 2
  let high := 4 * x.mantissa + 2
  let closed := x.mantissa % 2 == 0
  let fromLow := compareScaled d.digits d.exponent low (x.exponent - 2)
  let fromHigh := compareScaled d.digits d.exponent high (x.exponent - 2)
  (fromLow == .gt || (closed && fromLow == .eq)) && (fromHigh == .lt || (closed && fromHigh == .eq))

/-- The least `k` with the value below `10 ^ k`. -/
def Dyadic.scale (x : Dyadic) : Int :=
  let bits := (x.mantissa.log2 : Int) + x.exponent
  -- the decimal logarithm of two is 0.30103 to five places
  let guess := Int.fdiv (bits * 30103) 100000
  let fits (k : Int) : Bool := compareScaled 1 k x.mantissa x.exponent == .gt
  if fits (guess - 1) then guess - 1
  else if fits guess then guess
  else if fits (guess + 1) then guess + 1
  else guess + 2

/-- The largest multiple of `10 ^ e` that does not exceed the value, divided by `10 ^ e`. -/
def Dyadic.floorOn (x : Dyadic) (e : Int) : Nat :=
  (x.mantissa * Nat.pow 2 x.exponent.toNat * Nat.pow 10 (-e).toNat)
    / (Nat.pow 10 e.toNat * Nat.pow 2 (-x.exponent).toNat)

/-- The point of the grid `10 ^ e` that stands for the value, if one does: of
    two candidates the nearer, on a tie the even one. -/
def Dyadic.pointOn? (x : Dyadic) (e : Int) : Option Scaled :=
  let low := x.floorOn e
  let below : Scaled := ⟨low, e⟩
  let above : Scaled := ⟨low + 1, e⟩
  match x.contains below, x.contains above with
  | false, false => none
  | true, false => some below
  | false, true => some above
  | true, true =>
    -- both neighbours round to the value: compare it with the middle between them
    match compareScaled (2 * low + 1) e (2 * x.mantissa) x.exponent with
    | .gt => some below
    | .lt => some above
    | .eq => some (if low % 2 = 0 then below else above)

/-- Moves trailing zeros of the digits into the exponent, at most `fuel` of them. -/
def Scaled.strip : Nat → Scaled → Scaled
  | 0, d => d
  | fuel + 1, d =>
    if d.digits ≠ 0 && d.digits % 10 = 0 then Scaled.strip fuel ⟨d.digits / 10, d.exponent + 1⟩
    else d

/-- The shortest decimal of the value. Seventeen digits always suffice; the
    exact value is kept for the case that they did not. -/
def Dyadic.shortest (x : Dyadic) : Scaled :=
  let k := x.scale
  -- one digit more in each step, so the first hit is the shortest
  match (List.range 17).findSome? fun (n : Nat) => x.pointOn? (k - 1 - (n : Int)) with
  | some d => d.strip 400
  | none =>
    ⟨x.mantissa * Nat.pow 2 x.exponent.toNat * Nat.pow 5 (-x.exponent).toNat, min x.exponent 0⟩

end RoleGuard.Decimal

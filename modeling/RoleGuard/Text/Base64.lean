/-! # Base 64

    Decoding of base 64. Characters outside of the alphabet are passed over,
    padding ends the data where it completes a group of four, and a group
    that stays incomplete is refused.
-/

namespace RoleGuard.Text.Base64

/-- The number that a character stands for. -/
def value? (c : Char) : Option Nat :=
  let n := c.toNat
  if 65 ≤ n && n ≤ 90 then some (n - 65)
  else if 97 ≤ n && n ≤ 122 then some (n - 71)
  else if 48 ≤ n && n ≤ 57 then some (n + 4)
  else if c = '+' then some 62
  else if c = '/' then some 63
  else none

/-- The bytes that a character completes when `count` characters of its group, of which the last
    one stands for `left`, lie before it. -/
def completed (count left value : Nat) : List UInt8 :=
  match count with
  | 0 => []
  | 1 => [UInt8.ofNat (left * 4 + value / 16)]
  | 2 => [UInt8.ofNat (left % 16 * 16 + value / 4)]
  | _ => [UInt8.ofNat (left % 4 * 64 + value)]

/-- Decodes the rest of a group and what follows it; `pads` counts the padding just before. -/
def decodeFrom (count left pads : Nat) : List Char → Option (List UInt8)
  | [] => if count = 0 then some [] else none
  | c :: cs =>
    if c = '=' then
      if count ≥ 2 then
        -- padding that completes the group ends the data, whatever comes after it
        if count + pads + 1 ≥ 4 then some [] else decodeFrom count left (pads + 1) cs
      -- a group cannot be padded before its second character
      else decodeFrom count left pads cs
    else match value? c with
      | some v => (decodeFrom ((count + 1) % 4) v 0 cs).map (completed count left v ++ ·)
      | none => decodeFrom count left pads cs

/-- Decodes a text. -/
def decode (cs : List Char) : Option (List UInt8) :=
  decodeFrom 0 0 0 cs

end RoleGuard.Text.Base64

import RoleGuard.Text.Quoted

/-! # UTF-8

    Decoding of UTF-8 with an exact account of the first sequence that is
    not well-formed: where it starts, where it stops, and why. A sequence is
    as long as the bytes that could still have begun a character.
-/

namespace RoleGuard.Text.Utf8

/-- Why a sequence is not well-formed. -/
inductive Reason where
  /-- no character begins with this byte -/
  | start
  /-- a byte that cannot continue the character -/
  | continuation
  /-- the bytes stop within a character -/
  | truncated
deriving DecidableEq, Repr

/-- The first sequence that is not well-formed. -/
structure Malformed where
  /-- position of its first byte -/
  start : Nat
  /-- position after its last byte -/
  stop : Nat
  /-- its first byte -/
  byte : UInt8
  /-- what is wrong -/
  reason : Reason
deriving DecidableEq, Repr

/-- The wording of a reason. -/
def Reason.message : Reason → String
  | start => "invalid start byte"
  | continuation => "invalid continuation byte"
  | truncated => "unexpected end of data"

/-- The wording of an error, with the byte when there is only one. -/
def Malformed.message (m : Malformed) : String :=
  if m.stop = m.start + 1 then
    "'utf-8' codec can't decode byte 0x" ++ String.ofList (hexChars 2 m.byte.toNat)
      ++ " in position " ++ toString m.start ++ ": " ++ m.reason.message
  else
    "'utf-8' codec can't decode bytes in position " ++ toString m.start ++ "-"
      ++ toString (m.stop - 1) ++ ": " ++ m.reason.message

/-- Bytes that continue a character. -/
def isTail (b : UInt8) : Bool :=
  0x80 ≤ b && b ≤ 0xBF

/-- Second bytes of three: no overlong form and no surrogate. -/
def isSecondOfThree (a b : UInt8) : Bool :=
  isTail b && !(a == 0xE0 && b < 0xA0) && !(a == 0xED && b ≥ 0xA0)

/-- Second bytes of four: no overlong form and nothing beyond U+10FFFF. -/
def isSecondOfFour (a b : UInt8) : Bool :=
  isTail b && !(a == 0xF0 && b < 0x90) && !(a == 0xF4 && b ≥ 0x90)

/-- The six low bits of a tail byte. -/
def low (b : UInt8) : Nat :=
  b.toNat % 64

/-- Puts a character in front of what was decoded after it. -/
def push (n : Nat) (rest : Except Malformed (List Char)) : Except Malformed (List Char) :=
  rest.map (Char.ofNat n :: ·)

/-- Decodes bytes whose first one has position `at_`. -/
def decodeFrom (at_ : Nat) : List UInt8 → Except Malformed (List Char)
  | [] => .ok []
  | a :: r =>
    let fail (length : Nat) (reason : Reason) : Except Malformed (List Char) :=
      .error ⟨at_, at_ + length, a, reason⟩
    if a < 0x80 then push a.toNat (decodeFrom (at_ + 1) r)
    -- tail bytes, overlong forms of ASCII, and beyond the last code point
    else if a < 0xC2 || a > 0xF4 then fail 1 .start
    else if a < 0xE0 then
      match r with
      | [] => fail 1 .truncated
      | b :: r =>
        if isTail b then push (a.toNat % 32 * 64 + low b) (decodeFrom (at_ + 2) r)
        else fail 1 .continuation
    else if a < 0xF0 then
      match r with
      | [] => fail 1 .truncated
      | b :: r =>
        if !isSecondOfThree a b then fail 1 .continuation
        else match r with
          | [] => fail 2 .truncated
          | c :: r =>
            if isTail c then
              push ((a.toNat % 16 * 64 + low b) * 64 + low c) (decodeFrom (at_ + 3) r)
            else fail 2 .continuation
    else
      match r with
      | [] => fail 1 .truncated
      | b :: r =>
        if !isSecondOfFour a b then fail 1 .continuation
        else match r with
          | [] => fail 2 .truncated
          | c :: r =>
            if !isTail c then fail 2 .continuation
            else match r with
              | [] => fail 3 .truncated
              | d :: r =>
                if isTail d then
                  push (((a.toNat % 8 * 64 + low b) * 64 + low c) * 64 + low d)
                    (decodeFrom (at_ + 4) r)
                else fail 3 .continuation

/-- Decodes bytes. -/
def decode (bytes : List UInt8) : Except Malformed String :=
  (decodeFrom 0 bytes).map String.ofList

end RoleGuard.Text.Utf8

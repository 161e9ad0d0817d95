import RoleGuard.Calendar

/-! # Reading Dates and Moments

    A stamp is the written form of a day or a moment: year, month and day
    with hyphens between them, and perhaps, after the letter T or blanks, a
    time with colons, a fraction and a zone. Reading splits a stamp into
    numbers; whether they name a day of the calendar is decided afterwards.
-/

namespace RoleGuard.Calendar

/-- The time of day of a stamp. -/
structure StampTime where
  /-- hour -/
  hour : Nat
  /-- minute -/
  minute : Nat
  /-- second -/
  second : Nat
  /-- digits after the point -/
  fraction : List Char
  /-- minutes east of universal time -/
  zone : Option Int
deriving Repr

/-- The numbers of a stamp. -/
structure Stamp where
  /-- year -/
  year : Nat
  /-- month -/
  month : Nat
  /-- day -/
  day : Nat
  /-- month and day have two digits each -/
  full : Bool
  /-- time of day, if there is one -/
  time : Option StampTime
deriving Repr

/-- The number that ASCII digits stand for. -/
def digitsNumber (cs : List Char) : Nat :=
  cs.foldl (fun n c => n * 10 + (c.toNat - 48)) 0

/-- Up to `most` digits, at least `least`, and what follows them. -/
def takeDigits (least most : Nat) (cs : List Char) : Option (List Char × List Char) :=
  let digits := (cs.take most).takeWhile Char.isDigit
  if digits.length < least then none else some (digits, cs.drop digits.length)

/-- A number of up to `most` digits, at least `least`, and what follows it. -/
def takeNumber (least most : Nat) (cs : List Char) : Option (Nat × List Char) :=
  (takeDigits least most cs).map fun p => (digitsNumber p.1, p.2)

/-- What follows a character. -/
def after? (c : Char) : List Char → Option (List Char)
  | d :: cs => if d = c then some cs else none
  | [] => none

/-- Blanks within a stamp. -/
def isGap (c : Char) : Bool :=
  c = ' ' || c = '\t'

/-- What follows the mark between day and time. -/
def afterGap? : List Char → Option (List Char)
  | [] => none
  | c :: cs =>
    if c = 'T' || c = 't' then some cs
    else if isGap c then some (cs.dropWhile isGap)
    else none

/-- The minutes of a zone after its hours. -/
def zoneMinutes? : List Char → Option Nat
  | [] => some 0
  | ':' :: cs => match takeNumber 2 2 cs with
    | some (n, []) => some n
    | _ => none
  | _ => none

/-- The zone at the end of a stamp. -/
def zone? (cs : List Char) : Option (Option Int) :=
  if cs.isEmpty then some none
  else match cs.dropWhile isGap with
    | ['Z'] => some (some 0)
    | c :: cs =>
      if c = '+' || c = '-' then do
        let (hours, cs) ← takeNumber 1 2 cs
        let minutes ← zoneMinutes? cs
        let offset : Int := hours * 60 + minutes
        return some (if c = '-' then -offset else offset)
      else none
    | [] => none

/-- The fraction after the seconds, and what follows it. -/
def takeFraction : List Char → List Char × List Char
  | '.' :: cs => (cs.takeWhile Char.isDigit, cs.dropWhile Char.isDigit)
  | cs => ([], cs)

/-- The time of day of a stamp. -/
def stampTime? (cs : List Char) : Option StampTime := do
  let (hour, cs) ← takeNumber 1 2 cs
  let (minute, cs) ← takeNumber 2 2 (← after? ':' cs)
  let (second, cs) ← takeNumber 2 2 (← after? ':' cs)
  let (fraction, cs) := takeFraction cs
  return ⟨hour, minute, second, fraction, ← zone? cs⟩

/-- Reads a stamp. -/
def stamp? (cs : List Char) : Option Stamp := do
  let (year, cs) ← takeNumber 4 4 cs
  let (month, cs) ← takeDigits 1 2 (← after? '-' cs)
  let (day, cs) ← takeDigits 1 2 (← after? '-' cs)
  -- whatever follows the day must be a time to the last character
  let time ← if cs.isEmpty then pure none else do
    let t ← stampTime? (← afterGap? cs)
    pure (some t)
  return ⟨year, digitsNumber month, digitsNumber day, month.length == 2 && day.length == 2, time⟩

/-- The microseconds of a fraction; digits beyond the sixth are dropped. -/
def fractionMicros (digits : List Char) : Nat :=
  let kept := digits.take 6
  digitsNumber kept * Nat.pow 10 (6 - kept.length)

end RoleGuard.Calendar

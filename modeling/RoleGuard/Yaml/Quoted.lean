import RoleGuard.Yaml.Cursor

/-! # Quoted Scalars

    Within quotes a line end and the blanks around it become one space, and
    empty lines become line feeds. Between single quotes a doubled quote
    stands for itself; between double quotes a backslash starts an escape.
-/

namespace RoleGuard.Yaml

/-- The character that a letter after a backslash stands for. -/
def escapeLetter? (c : Char) : Option Char :=
  if c = '0' then some '\x00'
  else if c = 'a' then some '\x07'
  else if c = 'b' then some '\x08'
  else if c = 't' || c = '\t' then some '\t'
  else if c = 'n' then some '\n'
  else if c = 'v' then some '\x0b'
  else if c = 'f' then some '\x0c'
  else if c = 'r' then some '\r'
  else if c = 'e' then some '\x1b'
  else if c = ' ' then some ' '
  else if c = Text.doubleQuote then some c
  else if c = '\\' then some c
  else if c = '/' then some c
  else if c = 'N' then some '\x85'
  else if c = '_' then some '\xa0'
  else if c = 'L' then some '\u2028'
  else if c = 'P' then some '\u2029'
  else none

/-- The number of hexadecimal digits after a letter. -/
def escapeWidth? (c : Char) : Option Nat :=
  if c = 'x' then some 2
  else if c = 'u' then some 4
  else if c = 'U' then some 8
  else none

/-- The value of a hexadecimal digit. -/
def hexValue? (c : Char) : Option Nat :=
  let n := c.toNat
  if 48 ≤ n && n ≤ 57 then some (n - 48)
  else if 97 ≤ n && n ≤ 102 then some (n - 87)
  else if 65 ≤ n && n ≤ 70 then some (n - 55)
  else none

/-- The value of exactly `width` hexadecimal digits. -/
def hexNumber? (width : Nat) (cs : List Char) : Option Nat :=
  if cs.length < width then none
  else (cs.take width).foldlM (fun n c => (hexValue? c).map fun d => n * 16 + d) 0

/-- The character of a code point, or the defect of one that no text can hold. -/
def codePoint (n : Nat) : Except Failure Char :=
  if n ≥ 0x80000000 then .error (.defect (.codePoint true))
  else if n ≥ 0x110000 then .error (.defect (.codePoint false))
  else if 0xD800 ≤ n && n < 0xE000 then .error (.defect (.surrogate n))
  else .ok (Char.ofNat n)

namespace Cursor

/-- The empty lines at the cursor, and the place after them and the blanks that follow. -/
def foldedBreaks : Nat → Cursor → Except Failure (List Char × Cursor)
  | 0, c => .ok ([], c)
  | fuel + 1, c =>
    if c.atDocumentMark then .error (.problem .markInQuote)
    else
      let c := c.skip isSpace
      match c.peek with
      | some ch =>
        if isBreak ch then do
          let (taken, c) := c.takeBreak
          let (more, c) ← foldedBreaks fuel c
          return (taken ++ more, c)
        else return ([], c)
      | none => return ([], c)

/-- An escape after its backslash: what it stands for, and the place after it. -/
def escaped (c : Cursor) : Except Failure (List Char × Cursor) :=
  match c.peek with
  | none => .error (.problem .escape)
  | some ch =>
    match escapeLetter? ch, escapeWidth? ch with
    | some stands, _ => .ok ([stands], c.next)
    | none, some width =>
      match hexNumber? width (c.rest.drop 1) with
      | some n => (codePoint n).map fun stands => ([stands], c.advance (width + 1))
      | none => .error (.problem .escape)
    | none, none =>
      -- an escaped line end joins two lines without a space
      if isBreak ch then foldedBreaks (c.rest.length + 1) c.takeBreak.2
      else .error (.problem .escape)

/-- The blanks at the cursor, or what the line ends among them become. -/
def quotedSpaces (c : Cursor) : Except Failure (List Char × Cursor) := do
  let (blanks, c) := c.span isSpace
  match c.peek with
  | none => throw (.problem .unclosedQuote)
  | some ch =>
    if isBreak ch then
      let (first, c) := c.takeBreak
      let (more, c) ← foldedBreaks (c.rest.length + 1) c
      -- a single line end becomes a space, and of several the first is dropped
      let joint := if first ≠ ['\n'] then first else if more.isEmpty then [' '] else []
      return (joint ++ more, c)
    else return (blanks, c)

/-- A quoted scalar after its opening quote: its text, and the place after the closing quote. -/
def quotedBody (mark : Char) : Nat → Cursor → Except Failure (List Char × Cursor)
  | 0, _ => .error (.problem .unclosedQuote)
  | fuel + 1, c =>
    match c.peek with
    | none => .error (.problem .unclosedQuote)
    | some ch =>
      let go (part : List Char) (c : Cursor) : Except Failure (List Char × Cursor) := do
        let (more, c) ← quotedBody mark fuel c
        return (part ++ more, c)
      if ch = mark then
        if mark = Text.singleQuote && c.peekAt 1 == some mark then go [mark] (c.advance 2)
        else .ok ([], c.next)
      else if ch = '\\' && mark = Text.doubleQuote then do
        let (part, c) ← c.next.escaped
        go part c
      else if isSpace ch || isBreak ch then do
        let (part, c) ← c.quotedSpaces
        go part c
      else go [ch] c.next

/-- A quoted scalar at the cursor. -/
def quoted (mark : Char) (c : Cursor) : Except Failure (String × Cursor) := do
  let (text, c) ← quotedBody mark (c.rest.length + 1) c.next
  return (String.ofList text, c)

end Cursor

end RoleGuard.Yaml

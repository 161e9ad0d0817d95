import RoleGuard.Yaml.Problem

/-! # Cursors

    A place in a text: the characters to come, and how many characters,
    lines and columns lie behind.
-/

namespace RoleGuard.Yaml

/-- Characters that end a line. -/
def isBreak (c : Char) : Bool :=
  c = '\n' || c = '\r' || c = '\x85' || c = '\u2028' || c = '\u2029'

/-- Blanks within a line. -/
def isSpace (c : Char) : Bool :=
  c = ' ' || c = '\t'

/-- The end of the text, a blank or a line end. -/
def endsWord : Option Char → Bool
  | none => true
  | some c => isSpace c || isBreak c

/-- The end of the text, a space or a line end; a tab does not end a field. -/
def endsField : Option Char → Bool
  | none => true
  | some c => c = ' ' || isBreak c

/-- The end of the text or a line end. -/
def endsLine : Option Char → Bool
  | none => true
  | some c => isBreak c

/-- The mark that may stand at the start of a text. -/
def byteOrderMark : Char := '\ufeff'

/-- Characters that documents may hold. -/
def isAcceptable (c : Char) : Bool :=
  let n := c.toNat
  n = 0x09 || n = 0x0A || n = 0x0D || (0x20 ≤ n && n ≤ 0x7E) || n = 0x85
    || (0xA0 ≤ n && n ≤ 0xD7FF) || (0xE000 ≤ n && n ≤ 0xFFFD) || 0x10000 ≤ n

/-- ASCII letters, digits, hyphen and underscore. -/
def isNameChar (c : Char) : Bool :=
  c.isAlphanum || c = '-' || c = '_'

/-- A place in a text. -/
structure Cursor where
  /-- the characters to come -/
  rest : List Char
  /-- the number of characters behind -/
  index : Nat := 0
  /-- the number of line ends behind -/
  line : Nat := 0
  /-- the number of characters behind in this line -/
  column : Nat := 0
deriving Inhabited

namespace Cursor

/-- The character at the cursor. -/
def peek (c : Cursor) : Option Char :=
  c.rest.head?

/-- The character some places on. -/
def peekAt (c : Cursor) (n : Nat) : Option Char :=
  c.rest[n]?

/-- The place after the next character. A carriage return before a line feed ends no line, and
    the byte order mark takes no column. -/
def next (c : Cursor) : Cursor :=
  match c.rest with
  | [] => c
  | ch :: r =>
    -- two characters that end one line count as one line end
    if isBreak ch && !(ch = '\r' && r.head? == some '\n') then ⟨r, c.index + 1, c.line + 1, 0⟩
    else if ch = byteOrderMark then ⟨r, c.index + 1, c.line, c.column⟩
    else ⟨r, c.index + 1, c.line, c.column + 1⟩

/-- The place after some characters. -/
def advance : Nat → Cursor → Cursor
  | 0, c => c
  | n + 1, c => advance n c.next

/-- The characters of a class at the cursor, and the place after them. -/
def span (p : Char → Bool) (c : Cursor) : List Char × Cursor :=
  let taken := c.rest.takeWhile p
  (taken, c.advance taken.length)

/-- The place after the characters of a class. -/
def skip (p : Char → Bool) (c : Cursor) : Cursor :=
  (c.span p).2

/-- The line end at the cursor as it is kept, and the place after it. A line or paragraph
    separator stands for itself, every other line end for a line feed. -/
def takeBreak (c : Cursor) : List Char × Cursor :=
  match c.rest with
  | '\r' :: '\n' :: _ => (['\n'], c.advance 2)
  | ch :: _ =>
    if ch = '\u2028' || ch = '\u2029' then ([ch], c.next)
    else if isBreak ch then (['\n'], c.next)
    else ([], c)
  | [] => ([], c)

/-- A comment at the cursor is passed over. -/
def skipComment (c : Cursor) : Cursor :=
  if c.peek == some '#' then c.skip (!isBreak ·) else c

/-- Three characters that end or start a document stand at the cursor. -/
def atMark (mark : Char) (c : Cursor) : Bool :=
  [mark, mark, mark].isPrefixOf c.rest && endsWord (c.peekAt 3)

/-- The end or the start of a document stands at the cursor. -/
def atDocumentMark (c : Cursor) : Bool :=
  c.atMark '-' || c.atMark '.'

/-- The place after blanks, a comment and a line end, if nothing else stands at the cursor. -/
def restOfLine? (c : Cursor) : Option Cursor :=
  let c := (c.skip (· = ' ')).skipComment
  if endsLine c.peek then some c.takeBreak.2 else none

end Cursor

end RoleGuard.Yaml

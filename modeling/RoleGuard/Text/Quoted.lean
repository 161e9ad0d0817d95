import RoleGuard.Text.Printable

/-! # Quoted Text

    How a text or a byte string is shown inside a message: between single
    quotes, or between double quotes when it holds single quotes and no
    double ones. The quote itself and the backslash get a backslash, tab,
    line feed and carriage return a letter, every other character that is
    not printable its code in two, four or eight hexadecimal digits.
-/

namespace RoleGuard.Text

/-- The apostrophe. -/
def singleQuote : Char := '\x27'

/-- The quotation mark. -/
def doubleQuote : Char := '\x22'

/-- One hexadecimal digit, in lower case. -/
def hexDigit (n : Nat) : Char :=
  if n < 10 then Char.ofNat (48 + n) else Char.ofNat (87 + n)

/-- A number in hexadecimal with a given count of digits; higher digits are dropped. -/
def hexChars : Nat → Nat → List Char
  | 0, _ => []
  | width + 1, n => hexChars width (n / 16) ++ [hexDigit (n % 16)]

/-- The delimiter of a quoted text. -/
def delimiter (cs : List Char) : Char :=
  if cs.contains singleQuote && !cs.contains doubleQuote then doubleQuote else singleQuote

/-- What stands for a character between delimiters. -/
def quotedChar (mark c : Char) : List Char :=
  let n := c.toNat
  if c = mark || c = '\\' then ['\\', c]
  else if c = '\t' then ['\\', 't']
  else if c = '\n' then ['\\', 'n']
  else if c = '\r' then ['\\', 'r']
  else if n < 0x20 || n = 0x7F then '\\' :: 'x' :: hexChars 2 n
  else if n < 0x7F then [c]
  else if isPrintable c then [c]
  else if n ≤ 0xFF then '\\' :: 'x' :: hexChars 2 n
  else if n ≤ 0xFFFF then '\\' :: 'u' :: hexChars 4 n
  else '\\' :: 'U' :: hexChars 8 n

/-- A text between delimiters. -/
def quoteChars (cs : List Char) : List Char :=
  let mark := delimiter cs
  mark :: cs.flatMap (quotedChar mark) ++ [mark]

/-- A text between delimiters. -/
def quote (s : String) : String :=
  String.ofList (quoteChars s.toList)

/-- What stands for a byte between delimiters; bytes above 126 are shown by their code. -/
def quotedByte (mark : Char) (b : UInt8) : List Char :=
  if b.toNat < 0x7F then quotedChar mark (Char.ofNat b.toNat)
  else '\\' :: 'x' :: hexChars 2 b.toNat

/-- A byte string between delimiters, after the letter b. -/
def quoteBytes (bytes : List UInt8) : String :=
  -- only the two quotes matter for the delimiter, and they are ASCII
  let mark := delimiter (bytes.map fun b => Char.ofNat b.toNat)
  String.ofList ('b' :: mark :: bytes.flatMap (quotedByte mark) ++ [mark])

end RoleGuard.Text

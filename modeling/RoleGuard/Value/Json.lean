import RoleGuard.Value.Text

/-! # JSON Text

    Documents of texts, integers, truth values, lists and mappings as JSON,
    one member a line and two blanks deeper for each level. Characters
    beyond printable ASCII are escaped, those above U+FFFF as two units.
-/

namespace RoleGuard

namespace Json

/-- Four hexadecimal digits after a backslash and the letter u. -/
def unitEscape (n : Nat) : List Char :=
  '\\' :: 'u' :: Text.hexChars 4 n

/-- What stands for a character between quotation marks. -/
def escapedChar (c : Char) : List Char :=
  let n := c.toNat
  if c = Text.doubleQuote || c = '\\' then ['\\', c]
  else if c = '\n' then ['\\', 'n']
  else if c = '\r' then ['\\', 'r']
  else if c = '\t' then ['\\', 't']
  else if n = 8 then ['\\', 'b']
  else if n = 12 then ['\\', 'f']
  else if 0x20 ≤ n && n < 0x7F then [c]
  else if n < 0x10000 then unitEscape n
  else unitEscape (0xD800 + (n - 0x10000) / 0x400) ++ unitEscape (0xDC00 + (n - 0x10000) % 0x400)

/-- A text between quotation marks. -/
def quoted (s : String) : String :=
  String.ofList (Text.doubleQuote :: s.toList.flatMap escapedChar ++ [Text.doubleQuote])

/-- A line break and the blanks of a level. -/
def newline (depth : Nat) : String :=
  "\n" ++ String.ofList (List.replicate (2 * depth) ' ')

/-- Members between brackets, one a line. -/
def block (opening closing : String) (depth : Nat) (members : List String) : String :=
  if members.isEmpty then opening ++ closing
  else opening ++ newline (depth + 1) ++ ("," ++ newline (depth + 1)).intercalate members
    ++ newline depth ++ closing

end Json

namespace Value

mutual

/-- A value at a level. -/
def jsonAt (depth : Nat) : Value → String
  | null => "null"
  | bool b => if b then "true" else "false"
  | int n => toString n
  | float x => Decimal.render x
  | text s => Json.quoted s
  | list items => Json.block "[" "]" depth (jsonItems (depth + 1) items)
  | set items => Json.block "[" "]" depth (jsonItems (depth + 1) items)
  | map entries => Json.block openBrace closeBrace depth (jsonEntries (depth + 1) entries)
  | bytes content => Json.quoted (Text.quoteBytes content)
  | date d => Json.quoted d.iso
  | moment t => Json.quoted (t.iso "T")

/-- Items at a level. -/
def jsonItems (depth : Nat) : List Value → List String
  | [] => []
  | v :: vs => jsonAt depth v :: jsonItems depth vs

/-- Entries at a level. A key that is no text is written as its text. -/
def jsonEntries (depth : Nat) : List (Value × Value) → List String
  | [] => []
  | (k, v) :: es => (Json.quoted k.display ++ ": " ++ jsonAt depth v) :: jsonEntries depth es

end

/-- A document as JSON text. -/
def json (v : Value) : String :=
  jsonAt 0 v

end Value

end RoleGuard

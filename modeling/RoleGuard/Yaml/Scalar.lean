import RoleGuard.Calendar.Stamp
import RoleGuard.Text.Blank
import RoleGuard.Yaml.Tag

/-! # Plain Scalars

    A plain scalar without a tag gets one from its spelling: words for no
    value and for truth values, integers in four bases and base 60, numbers
    with a point, days and moments. Everything else is a text. A number with
    an exponent needs a point and a signed exponent.
-/

namespace RoleGuard.Yaml

/-- A scalar without the line feed at its end, if it has one. -/
def withoutFinalBreak (cs : List Char) : List Char :=
  if cs.getLast? == some '\n' then cs.dropLast else cs

/-- Words for no value. -/
def nullWords : List String := ["~", "null", "Null", "NULL"]

/-- Words for truth values, with the values, in lower case. -/
def truthWords : List (String × Bool) :=
  [("yes", true), ("no", false), ("true", true), ("false", false), ("on", true), ("off", false)]

/-- The three spellings of a word: in lower case, capitalized, and in upper case. -/
def spellings (word : String) : List String :=
  [word, word.capitalize, word.map Char.toUpper]

/-- Words that plain scalars may use for truth values. -/
def plainTruthWords : List String :=
  truthWords.flatMap fun w => spellings w.1

/-- A scalar without the sign in front of it. -/
def withoutSign : List Char → List Char
  | '-' :: cs => cs
  | '+' :: cs => cs
  | cs => cs

/-- There are characters, and all are of a class. -/
def nonemptyOf (p : Char → Bool) (cs : List Char) : Bool :=
  !cs.isEmpty && cs.all p

/-- Digits of base ten and the underscore. -/
def isTenDigit (c : Char) : Bool :=
  c.isDigit || c = '_'

/-- A number below 60 with one or two digits. -/
def isSixty : List Char → Bool
  | [a] => a.isDigit
  | [a, b] => '0' ≤ a && a ≤ '5' && b.isDigit
  | _ => false

/-- A number in base 60 whose first part passes a test. -/
def isSexagesimal (first : List Char → Bool) (cs : List Char) : Bool :=
  match Text.splitChars ':' cs with
  | part :: rest => first part && nonemptyOf (fun _ => true) cs && !rest.isEmpty && rest.all isSixty
  | [] => false

/-- Digits of base ten, the first one no underscore. -/
def isTenNumber : List Char → Bool
  | [] => false
  | c :: cs => c.isDigit && cs.all isTenDigit

/-- Digits of base ten that do not start with a zero. -/
def isPositiveNumber : List Char → Bool
  | [] => false
  | c :: cs => c.isDigit && c != '0' && cs.all isTenDigit

/-- The spelling of an integer. -/
def spellsInt (cs : List Char) : Bool :=
  match withoutSign cs with
  | [] => false
  | ['0'] => true
  | '0' :: c :: r =>
    if c = 'b' then nonemptyOf (fun d => d = '0' || d = '1' || d = '_') r
    else if c = 'x' then
      nonemptyOf (fun d => isTenDigit d || ('a' ≤ d && d ≤ 'f') || ('A' ≤ d && d ≤ 'F')) r
    else (c :: r).all fun d => ('0' ≤ d && d ≤ '7') || d = '_'
  | cs => isPositiveNumber cs || isSexagesimal isPositiveNumber cs

/-- An exponent with its sign, or nothing. -/
def isExponent : List Char → Bool
  | [] => true
  | e :: s :: digits =>
    (e = 'e' || e = 'E') && (s = '-' || s = '+') && nonemptyOf Char.isDigit digits
  | _ => false

/-- Digits and perhaps an exponent after a point. -/
def isFraction (cs : List Char) : Bool :=
  isExponent (cs.dropWhile isTenDigit)

/-- The spelling of a number with a point. -/
def spellsFloat (cs : List Char) : Bool :=
  let unsigned := withoutSign cs
  let whole := unsigned.takeWhile (· != '.')
  match unsigned.drop whole.length with
  | [] => false
  | _ :: fraction =>
    if whole.isEmpty then
      (spellings "inf").contains (String.ofList fraction)
        || (cs.head? == some '.' &&
            (["nan", "NaN", "NAN"].contains (String.ofList fraction)
              || (fraction.head?.any Char.isDigit && isFraction fraction)))
    else (isTenNumber whole && isFraction fraction)
      || (isSexagesimal isTenNumber whole && fraction.all isTenDigit)

/-- The spelling of a day or a moment. A day alone needs two digits for month and day. -/
def spellsStamp (cs : List Char) : Bool :=
  match Calendar.stamp? cs with
  | some s => s.full || s.time.isSome
  | none => false

/-- The tag of a plain scalar. The empty scalar has no value. -/
def plainTag (text : String) : CoreTag :=
  let cs := withoutFinalBreak text.toList
  let word := String.ofList cs
  -- some spellings fit several tags, and the first one in this order counts
  if text = "" then .null
  else if plainTruthWords.contains word then .bool
  else if spellsFloat cs then .float
  else if spellsInt cs then .int
  else if word = "<<" then .merge
  else if nullWords.contains word then .null
  else if spellsStamp cs then .timestamp
  else if word = "=" then .default
  else if word = "!" || word = "&" || word = "*" then .indicator
  else .text

end RoleGuard.Yaml

import RoleGuard.Calendar
import RoleGuard.Files.Store
import RoleGuard.Text.Utf8

/-! # Defects

    Conditions of the input that no part of the program turns into an error
    of its own: they end the run. Each is a cause with one wording. Two of
    them stand for values that are none here: texts hold whole characters
    only, and a value is a tree.
-/

namespace RoleGuard

/-- A condition that ends the run. -/
inductive Defect where
  /-- a file that is not UTF-8 -/
  | notUtf8 (m : Text.Utf8.Malformed)
  /-- metadata of a kind that has no fields -/
  | fieldless (kind : String)
  /-- a date or time that does not exist -/
  | calendar (e : Calendar.OutOfRange)
  /-- a text that is no numeral of a base -/
  | numeral (base : Nat) (text : String)
  /-- a numeral of base ten with too many digits -/
  | longNumeral (digits : Nat)
  /-- a text that is no decimal number -/
  | decimal (text : String)
  /-- a numeral without characters -/
  | emptyNumeral
  /-- a text that is no word for a truth value -/
  | truthWord (text : String)
  /-- a text that is no date or time -/
  | notMoment
  /-- the escape of a code point beyond the last one; `huge` when it exceeds a machine word -/
  | codePoint (huge : Bool)
  /-- the escape of half a surrogate pair, which is no character -/
  | surrogate (n : Nat)
  /-- a value that stands inside itself -/
  | selfContained
  /-- an integer with more digits than can be shown -/
  | longInteger (digits : Nat)
  /-- a value with more levels than can be shown -/
  | tooDeep
  /-- a file name with a null character -/
  | nullInName
  /-- a path that cannot be looked up -/
  | unreachable (f : FileFault) (p : Path)
  /-- a search pattern that starts at the root -/
  | absolutePattern
  /-- a search pattern in which two stars stand beside other characters -/
  | mixedStars
deriving Repr

/-- The most digits of a numeral of base ten. -/
def longestNumeral : Nat := 4300

/-- The wording of a defect. -/
def Defect.message : Defect → String
  | notUtf8 m => m.message
  | fieldless kind => "'" ++ kind ++ "' object has no attribute 'get'"
  | calendar e => e.message
  | numeral base text =>
    "invalid literal for int() with base " ++ toString base ++ ": " ++ Text.quote text
  | longNumeral digits =>
    "Exceeds the limit (" ++ toString longestNumeral
      ++ " digits) for integer string conversion: value has " ++ toString digits
      ++ " digits; use sys.set_int_max_str_digits() to increase the limit"
  | decimal text => "could not convert string to float: " ++ Text.quote text
  | emptyNumeral => "string index out of range"
  | truthWord text => Text.quote text
  | notMoment => "'NoneType' object has no attribute 'groupdict'"
  | codePoint huge =>
    if huge then "Python int too large to convert to C int" else "chr() arg not in range(0x110000)"
  | surrogate n => "surrogate in a text: " ++ String.ofList (Text.hexChars 4 n)
  | selfContained => "value inside of itself"
  | longInteger digits =>
    "Exceeds the limit (" ++ toString digits
      ++ " digits) for integer string conversion; "
      ++ "use sys.set_int_max_str_digits() to increase the limit"
  | tooDeep => "maximum recursion depth exceeded while getting the repr of an object"
  | nullInName => "embedded null byte"
  | unreachable f p => f.message p
  | absolutePattern => "Non-relative patterns are unsupported"
  | mixedStars => "Invalid pattern: '**' can only be an entire path component"

end RoleGuard

import RoleGuard.Decimal.Notation
import RoleGuard.Text.Quoted
import RoleGuard.Value

/-! # The Text of a Value

    Messages show values in two ways. Inspected, a text is quoted and a date
    names its parts; displayed, a text stands for itself and a date is
    written with hyphens. Collections show their members inspected.
-/

namespace RoleGuard

/-- The parts of a day. -/
def Date.inspect (d : Date) : String :=
  "datetime.date(" ++ toString d.year ++ ", " ++ toString d.month ++ ", " ++ toString d.day ++ ")"

/-- The parts of a moment; seconds and fraction only when they are needed. -/
def Moment.inspect (t : Moment) : String :=
  let parts := [t.date.year, t.date.month, t.date.day, t.hour, t.minute]
    ++ (if t.second = 0 && t.micro = 0 then [] else [t.second])
    ++ (if t.micro = 0 then [] else [t.micro])
  let zone := match t.offset with
    | none => ""
    | some m =>
      if m = 0 then ", tzinfo=datetime.timezone.utc"
      else ", tzinfo=datetime.timezone(" ++ Calendar.durationText m ++ ")"
  "datetime.datetime(" ++ ", ".intercalate (parts.map toString) ++ zone ++ ")"

namespace Value

/-- The opening brace. -/
def openBrace : String := "\x7b"

/-- The closing brace. -/
def closeBrace : String := "\x7d"

mutual

/-- The inspected form of a value. -/
def inspect : Value → String
  | null => "None"
  | bool b => if b then "True" else "False"
  | int n => toString n
  | float x => Decimal.render x
  | text s => Text.quote s
  | bytes content => Text.quoteBytes content
  | date d => d.inspect
  | moment t => t.inspect
  | list items => "[" ++ ", ".intercalate (inspectAll items) ++ "]"
  | set items =>
    if items.isEmpty then "set()"
    else openBrace ++ ", ".intercalate (inspectAll items) ++ closeBrace
  | map entries => openBrace ++ ", ".intercalate (inspectEntries entries) ++ closeBrace

/-- The inspected forms of values. -/
def inspectAll : List Value → List String
  | [] => []
  | v :: vs => inspect v :: inspectAll vs

/-- The inspected forms of the entries of a mapping. -/
def inspectEntries : List (Value × Value) → List String
  | [] => []
  | (k, v) :: es => (inspect k ++ ": " ++ inspect v) :: inspectEntries es

end

/-- The displayed form of a value. -/
def display : Value → String
  | text s => s
  | date d => d.iso
  | moment t => t.iso " "
  | v => inspect v

end Value

end RoleGuard

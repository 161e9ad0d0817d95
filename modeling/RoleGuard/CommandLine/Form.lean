import RoleGuard.Text.Blank
import RoleGuard.Text.Digit
import RoleGuard.Text.Quoted

/-! # Forms of Arguments

    A form lists the options that a command takes. Options start with
    hyphens; a long one may be shortened as long as it stays unambiguous,
    and its value may follow an equals sign. A double hyphen alone ends the
    options. Words are what is left.
-/

namespace RoleGuard.CommandLine

/-- An option with a value. -/
structure OptionForm where
  /-- its name -/
  name : String
  /-- its lines in the help text -/
  help : List String
  /-- the values it takes; none for any -/
  choices : List String := []
  /-- it must be given -/
  required : Bool := false
deriving DecidableEq, Repr, Inhabited

/-- A command with its options. -/
structure Form where
  /-- the words that call it -/
  title : String
  /-- its usage text -/
  usage : String
  /-- the lines of its help text between usage and options -/
  about : List String
  /-- its options, apart from the one for help -/
  options : List OptionForm
deriving DecidableEq, Repr, Inhabited

/-- What the name of an option stands for. -/
inductive Target where
  /-- the help text -/
  | help
  /-- an option with a value -/
  | value (o : OptionForm)
deriving DecidableEq, Repr, Inhabited

/-- How a message names an option. -/
def Target.label : Target → String
  | help => "-h/--help"
  | value o => o.name

/-- What is wrong with arguments. -/
inductive Misuse where
  /-- the beginning of several options -/
  | ambiguous (argument : String) (names : List String)
  /-- an option without its value -/
  | noValue (label : String)
  /-- a value for an option that takes none -/
  | surplusValue (label value : String)
  /-- a value that is not one of those to choose from -/
  | badChoice (label value : String) (choices : List String)
  /-- something needed is not there -/
  | absent (labels : List String)
  /-- arguments that mean nothing -/
  | unrecognized (arguments : List String)
deriving DecidableEq, Repr

/-- The wording of a misuse. -/
def Misuse.message : Misuse → String
  | ambiguous argument names =>
    "ambiguous option: " ++ argument ++ " could match " ++ ", ".intercalate names
  | noValue label => "argument " ++ label ++ ": expected one argument"
  | surplusValue label value =>
    "argument " ++ label ++ ": ignored explicit argument " ++ Text.quote value
  | badChoice label value choices =>
    "argument " ++ label ++ ": invalid choice: " ++ Text.quote value
      ++ " (choose from " ++ ", ".intercalate (choices.map Text.quote) ++ ")"
  | absent labels => "the following arguments are required: " ++ ", ".intercalate labels
  | unrecognized arguments => "unrecognized arguments: " ++ " ".intercalate arguments

/-- Why arguments do not lead to a run. -/
inductive Stop where
  /-- help was asked for -/
  | help (form : Form)
  /-- the arguments are misused -/
  | misuse (form : Form) (m : Misuse)

/-- How an argument reads. -/
inductive Shape where
  /-- a word -/
  | word
  /-- the double hyphen that ends the options -/
  | marker
  /-- an option, perhaps with a value in the same argument; `short` if the value follows the
      name without an equals sign -/
  | known (target : Target) (short : Bool) (value : Option String)
  /-- an option of no form -/
  | unknown
deriving DecidableEq, Repr, Inhabited

namespace Form

/-- The names of options with what they stand for. -/
def names (form : Form) : List (String × Target) :=
  [("-h", .help), ("--help", .help)] ++ form.options.map fun o => (o.name, .value o)

/-- The line about help in help texts. -/
def helpLine : String := "  -h, --help            show this help message and exit"

/-- The help text. -/
def help (form : Form) : String :=
  form.usage ++ "\n" ++ String.join ((form.about ++ ["options:", helpLine]
    ++ form.options.flatMap OptionForm.help).map (· ++ "\n"))

end Form

/-! ## Reading one argument -/

/-- An argument before and after its first equals sign, if it has one. -/
def splitEquals (cs : List Char) : List Char × Option String :=
  match cs.dropWhile (· ≠ '=') with
  | [] => (cs, none)
  | _ :: value => (cs.takeWhile (· ≠ '='), some (String.ofList value))

/-- A hyphen and a number, perhaps with a fraction; a line feed may end it. -/
def isNegativeNumber : List Char → Bool
  | '-' :: cs =>
    let whole := cs.takeWhile Text.isDigit
    let ends (rest : List Char) : Bool := rest.isEmpty || rest == ['\n']
    -- digits before the point may be left out, those behind it may not
    match cs.drop whole.length with
    | '.' :: r =>
      let fraction := r.takeWhile Text.isDigit
      !fraction.isEmpty && ends (r.drop fraction.length)
    | r => !whole.isEmpty && ends r
  | _ => false

/-- The readings of an argument that is no full name: long names that it shortens, or a name of
    one letter with a value behind it. -/
def candidates (form : Form) (cs : List Char) : List (String × Shape) :=
  if ['-', '-'].isPrefixOf cs then
    let (start, value) := splitEquals cs
    (form.names.filter fun n => start.isPrefixOf n.1.toList).map
      fun n => (n.1, .known n.2 false value)
  else
    -- after one hyphen only names of one letter fit, with their value behind the letter
    (form.names.filter fun n => n.1.toList == cs.take 2).map
      fun n => (n.1, .known n.2 true (some (String.ofList (cs.drop 2))))

/-- How an argument that is no full name of an option reads. -/
def readPartial (form : Form) (argument : String) : Except Misuse Shape :=
  let cs := argument.toList
  match candidates form cs with
  | [c] => .ok c.2
  -- what looks like a number or holds a blank is a word in spite of its hyphen
  | [] => .ok (if isNegativeNumber cs || cs.contains ' ' then .word else .unknown)
  | cs => .error (.ambiguous argument (cs.map (·.1)))

/-- How an argument reads. -/
def readOne (form : Form) (argument : String) : Except Misuse Shape :=
  let cs := argument.toList
  if cs.head? ≠ some '-' then .ok .word
  else match form.names.lookup argument with
    | some t => .ok (.known t false none)
    | none =>
      if cs.length = 1 then .ok .word
      else match splitEquals cs with
        | (start, some value) => match form.names.lookup (String.ofList start) with
          | some t => .ok (.known t false (some value))
          | none => readPartial form argument
        | _ => readPartial form argument

/-- How arguments read. After the double hyphen all are words. -/
def readAll (form : Form) : List String → Except Misuse (List (String × Shape))
  | [] => .ok []
  | a :: as =>
    if a = "--" then .ok ((a, .marker) :: as.map fun b => (b, .word))
    else do
      let shape ← readOne form a
      return (a, shape) :: (← readAll form as)

/-! ## Reading options -/

/-- The value of an option that takes none, as far as it is not the letters of such options. -/
def surplus : Bool → List Char → Option (List Char)
  | _, [] => some []
  | true, 'h' :: [] => none
  | true, 'h' :: '=' :: cs => surplus false cs
  | true, 'h' :: c :: cs => surplus true (c :: cs)
  | short, c :: cs => if short && c ≠ '-' then none else some (c :: cs)

/-- What was read. -/
structure Filled where
  /-- the options with their values, in order -/
  given : List (String × String) := []
  /-- the arguments that mean nothing here -/
  extras : List String := []
deriving DecidableEq, Repr, Inhabited

namespace Filled

/-- Adds an option with its value. -/
def put (f : Filled) (o : OptionForm) (value : String) : Except Misuse Filled :=
  if o.choices.isEmpty || o.choices.contains value then
    .ok { f with given := f.given ++ [(o.name, value)] }
  else .error (.badChoice o.name value o.choices)

/-- Adds arguments that mean nothing here. -/
def leave (f : Filled) (arguments : List String) : Filled :=
  { f with extras := f.extras ++ arguments }

/-- The values of an option, in order. -/
def all (f : Filled) (name : String) : List String :=
  (f.given.filter (·.1 == name)).map (·.2)

/-- The last value of an option. -/
def last? (f : Filled) (name : String) : Option String :=
  (f.all name).getLast?

end Filled

/-- Reads options. Where `commands` are expected, reading stops at the first word, which is
    returned with the arguments behind it; elsewhere words mean nothing. -/
def fill (form : Form) (commands : Bool) :
    Filled → List (String × Shape) → Except Stop (Filled × Option (String × List String))
  | f, [] => .ok (f, none)
  | f, (a, .unknown) :: rest => fill form commands (f.leave [a]) rest
  | f, (a, .word) :: rest =>
    if commands then .ok (f, some (a, rest.map (·.1)))
    else fill form commands (f.leave [a]) rest
  | f, (a, .marker) :: rest =>
    -- the marker itself is taken for the word when a word must follow
    if commands && !rest.isEmpty then .ok (f, some (a, rest.map (·.1)))
    else .ok (f.leave (a :: rest.map (·.1)), none)
  | _, (_, .known .help _ none) :: _ => .error (.help form)
  | _, (_, .known .help short (some v)) :: _ =>
    match surplus short v.toList with
    | none => .error (.help form)
    | some v => .error (.misuse form (.surplusValue Target.help.label (String.ofList v)))
  | f, (_, .known (.value o) _ (some v)) :: rest =>
    match f.put o v with
    | .ok f => fill form commands f rest
    | .error m => .error (.misuse form m)
  -- the value is the next argument, and that must be a word
  | f, (_, .known (.value o) _ none) :: (v, .word) :: rest =>
    match f.put o v with
    | .ok f => fill form commands f rest
    | .error m => .error (.misuse form m)
  | _, (_, .known (.value o) _ none) :: _ => .error (.misuse form (.noValue o.name))

/-- Reads the arguments of a form. -/
def Form.read (form : Form) (commands : Bool) (arguments : List String) :
    Except Stop (Filled × Option (String × List String)) :=
  match readAll form arguments with
  | .error m => .error (.misuse form m)
  | .ok shapes => fill form commands {} shapes

/-- The required options that were not given. -/
def Form.absent (form : Form) (f : Filled) : List String :=
  (form.options.filter fun o => o.required && (f.all o.name).isEmpty).map OptionForm.name

end RoleGuard.CommandLine

import RoleGuard.Error
import RoleGuard.Log.Level
import RoleGuard.Value.Shown

/-! # Log Setup

    What becomes of a message. The program installs one handler of its own,
    which writes a line for every message that reaches the level; setting it
    up again replaces it and leaves the handlers of others alone. Without
    any handler, warnings and worse are written bare. A setup is changed in
    steps, and a level that is refused stops the change where it stands.
-/

namespace RoleGuard.Log

/-- A receiver of messages. -/
inductive Handler where
  /-- a handler of the program; each one that is made has its serial number -/
  | own (serial : Nat)
  /-- a handler of somebody else, which writes nothing here -/
  | foreign (id : Nat)
deriving DecidableEq, Repr, Inhabited

/-- The handler is one of the program. -/
def Handler.isOwn : Handler → Bool
  | own _ => true
  | foreign _ => false

/-- The level and the receivers of the program's messages. -/
structure Setup where
  /-- the level, 0 for none -/
  level : Int := 0
  /-- the receivers, in the order in which they were added -/
  handlers : List Handler := []
  /-- how many handlers of the program were made -/
  made : Nat := 0
deriving DecidableEq, Repr, Inhabited

/-- Why a level cannot be set. -/
inductive LevelFault where
  /-- no level has this name -/
  | unknown (name : String)
  /-- neither a number nor a name, with its inspected form -/
  | odd (text : String)
  /-- neither of them, and it cannot be shown either -/
  | unshown (d : Defect)

/-- The wording of a level fault. -/
def LevelFault.message : LevelFault → String
  | unknown name => "Unknown level: " ++ Text.quote ("Level " ++ Text.upper name)
  | odd text => "Level not an integer or a valid string: " ++ text
  | unshown d => d.message

/-- The failure that a message tells of. -/
inductive Cause where
  /-- an error of the program -/
  | known (e : Error)
  /-- any other failure, with its name and its wording -/
  | foreign (name message : String)

/-- A name, and the wording after a colon unless it is empty. -/
def named (name message : String) : String :=
  if message = "" then name else name ++ ": " ++ message

/-- A cause with its full name. -/
def Cause.text : Cause → String
  | known e => named ("grantcheck.exceptions." ++ e.kindName) e.message
  | foreign name message => named name message

/-- What the program's handler adds to a message about a cause. An error of
    the program is a reported condition, so its wording is not repeated. -/
def causeText : Option Cause → String
  | some (.foreign name message) => named name message
  | _ => ""

/-- A text with a line end; a line end that is there already is enough. -/
def endLine (s : String) : String :=
  if s.toList.getLast? == some '\n' then s else s ++ "\n"

/-- A message with an addition on a line of its own. -/
def withCause (line cause : String) : String :=
  (if cause = "" then line else endLine line ++ cause) ++ "\n"

/-- A part of a line. -/
inductive LinePart where
  /-- when the message came -/
  | time
  /-- who speaks -/
  | source
  /-- how serious it is -/
  | level
  /-- what it says -/
  | message
deriving DecidableEq, Repr

/-- The mark of a part in a layout. -/
def LinePart.mark : LinePart → String
  | time => "%(asctime)s"
  | source => "%(name)s"
  | level => "%(levelname)s"
  | message => "%(message)s"

/-- A part of the line for a message. -/
def LinePart.text (at_ : String) (r : Record) : LinePart → String
  | time => at_
  | source => r.source
  | level => levelText r.level
  | message => r.message

/-- A line with something for each of its parts. -/
def lineOf (f : LinePart → String) : String :=
  " - ".intercalate (([.time, .source, .level, .message] : List LinePart).map f)

/-- The layout of a line. -/
def layout : String :=
  lineOf LinePart.mark

/-- A line of the program's handler. -/
def formatted (time : String) (r : Record) (cause : Option Cause) : String :=
  withCause (lineOf (LinePart.text time r)) (causeText cause)

/-- What is written when there is no handler. -/
def bare (r : Record) (cause : Option Cause) : String :=
  if r.level ≥ LevelName.warning.value then
    withCause r.message (match cause with
      | none => ""
      | some c => c.text)
  else ""

/-- The source belongs to the program. -/
def inPackage (source : String) : Bool :=
  source == package || (package ++ ".").isPrefixOf source

/-- The level has a text: if it is shown by its number, the number is not too long. -/
def Record.hasLevelText (r : Record) : Bool :=
  decide (r.level.natAbs < Nat.pow 10 longestNumeral)

namespace Setup

/-- The level that a message must reach. -/
def threshold (s : Setup) : Int :=
  if s.level = 0 then LevelName.warning.value else s.level

/-- A message of this level is passed on. Levels up to 0 never are. -/
def passes (s : Setup) (level : Int) : Bool :=
  0 < level && s.threshold ≤ level

/-- The level is set, and a fresh handler of the program stands behind those of others. -/
def withLevel (s : Setup) (level : Int) : Setup :=
  ⟨level, s.handlers.filter (!·.isOwn) ++ [.own s.made], s.made + 1⟩

/-- Adds a handler, unless it is there. -/
def add (s : Setup) (h : Handler) : Setup :=
  if h ∈ s.handlers then s else { s with handlers := s.handlers ++ [h] }

/-- Adds a handler of somebody else, numbered by its place unless it has a number. -/
def addForeign (s : Setup) (id : Nat := s.handlers.length) : Setup :=
  s.add (.foreign id)

/-- What one handler writes. -/
def handled (time : String) (r : Record) (cause : Option Cause) : Handler → String
  | .own _ => formatted time r cause
  | .foreign _ => ""

/-- The setup that a message meets. What does not belong to the program meets a log that was
    never set up. -/
def met (s : Setup) (r : Record) : Setup :=
  if inPackage r.source then s else {}

/-- What a message makes the handlers write. -/
def emit (s : Setup) (time : String) (r : Record) (cause : Option Cause) : String :=
  let s := s.met r
  if s.passes r.level then
    if s.handlers.isEmpty then bare r cause
    else String.join (s.handlers.map (handled time r cause))
  else ""

/-- What several messages make the handlers write. -/
def emitAll (s : Setup) (time : String) (rs : List Record) : String :=
  String.join (rs.map fun r => s.emit time r none)

end Setup

/-! ## Changes -/

/-- The number that a level stands for, given as a number or a name. -/
def levelNumber (level : Value) : Except LevelFault Int :=
  match level.asInt? with
  | some n => .ok n
  | none => match level with
    | .text name => match LevelName.ofAnyCase? name with
      | some n => .ok n.value
      | none => .error (.unknown name)
    | v => match v.shown {} Value.inspect with
      | .ok text => .error (.odd text)
      | .error d => .error (.unshown d)

/-- A change of the setup. It may be refused half way; what was done before stays done. -/
abbrev Change := EStateM LevelFault Setup

namespace Change

/-- Sets the level. -/
def setLevel (level : Value) : Change Unit :=
  match levelNumber level with
  | .ok n => modify fun s => { s with level := n }
  | .error fault => throw fault

/-- Takes a handler away. -/
def remove (h : Handler) : Change Unit :=
  modify fun s => { s with handlers := s.handlers.erase h }

/-- Takes away those of some handlers that are the program's. -/
def removeOwn (handlers : List Handler) : Change Unit :=
  handlers.forM fun h => if h.isOwn then remove h else pure ()

/-- Makes a handler of the program. -/
def makeHandler : Change Handler :=
  modifyGet fun s => (.own s.made, { s with made := s.made + 1 })

/-- Sets up the log with a level. -/
def configure (level : Value) : Change Unit := do
  setLevel level
  removeOwn (← get).handlers
  let h ← makeHandler
  modify (·.add h)

end Change

/-- The setup after a change of the level, unless the level is refused. -/
def Setup.configure (s : Setup) (level : Value) : Except LevelFault Setup :=
  match (Change.configure level).run s with
  | .ok () t => .ok t
  | .error fault _ => .error fault

/-! ## Calls -/

/-- One use of the log. -/
inductive Call where
  /-- the log is set up with a level -/
  | configure (level : Value)
  /-- somebody else adds a handler -/
  | addForeign (id : Nat)
  /-- a message is logged at some time -/
  | log (time : String) (r : Record) (cause : Option Cause)

/-- What comes of a call. -/
inductive Answer where
  /-- the setup was changed -/
  | done
  /-- the level was refused -/
  | refused (fault : LevelFault)
  /-- this was written -/
  | wrote (text : String)
  /-- nothing was written, since the message cannot be made -/
  | broke (d : Defect)

/-- The setup after a call, and what came of it. -/
def Setup.call (s : Setup) : Call → Setup × Answer
  | .configure level => match (Change.configure level).run s with
    | .ok () t => (t, .done)
    | .error fault t => (t, .refused fault)
  | .addForeign id => (s.addForeign id, .done)
  | .log time r cause =>
    -- a message that is passed on gets a text for its level before anybody writes it
    if (s.met r).passes r.level && !r.hasLevelText then
      (s, .broke (.longInteger longestNumeral))
    else (s, .wrote (s.emit time r cause))

/-- The setup after some calls, and each call with what came of it. -/
def Setup.run (s : Setup) : List Call → Setup × List (Call × Answer)
  | [] => (s, [])
  | c :: cs =>
    let (t, answer) := s.call c
    let (u, rest) := t.run cs
    (u, (c, answer) :: rest)

end RoleGuard.Log

import RoleGuard.Text.Upper

/-! # Log Levels

    Levels are numbers; some have names. Two names may stand for one number.
-/

namespace RoleGuard.Log

/-- The names of levels. -/
inductive LevelName where
  /-- 50 -/
  | critical
  /-- 50, an older name -/
  | fatal
  /-- 40 -/
  | error
  /-- 30, an older name -/
  | warn
  /-- 30 -/
  | warning
  /-- 20 -/
  | info
  /-- 10 -/
  | debug
  /-- 0, no level of its own -/
  | notset
deriving DecidableEq, Repr, Inhabited

namespace LevelName

/-- Every name. -/
def all : List LevelName :=
  [critical, fatal, error, warn, warning, info, debug, notset]

/-- A name as it is written. -/
def text : LevelName → String
  | critical => "CRITICAL"
  | fatal => "FATAL"
  | error => "ERROR"
  | warn => "WARN"
  | warning => "WARNING"
  | info => "INFO"
  | debug => "DEBUG"
  | notset => "NOTSET"

/-- The number that a name stands for. -/
def value : LevelName → Int
  | critical | fatal => 50
  | error => 40
  | warn | warning => 30
  | info => 20
  | debug => 10
  | notset => 0

/-- The name with this text. -/
def ofText? (s : String) : Option LevelName :=
  all.find? fun n => n.text == s

/-- The name with this text in any case. -/
def ofAnyCase? (s : String) : Option LevelName :=
  ofText? (Text.upper s)

end LevelName

/-- How a level is shown: by its usual name, or by its number. -/
def levelText (level : Int) : String :=
  match ([.critical, .error, .warning, .info, .debug, .notset] : List LevelName).find?
      fun n => n.value == level with
  | some n => n.text
  | none => "Level " ++ toString level

/-- One message to a log. -/
structure Record where
  /-- the part of the program that speaks -/
  source : String
  /-- how serious it is -/
  level : Int
  /-- what it says -/
  message : String
deriving DecidableEq, Repr, Inhabited

/-- The source of messages on the program as a whole. -/
def package : String := "grantcheck"

/-- The source of messages on manifests. -/
def sourcesName : String := package ++ ".sources"

/-- The source of messages on settings. -/
def configName : String := package ++ ".config"

/-- The source of messages of the command line. -/
def commandName : String := package ++ ".cli"

end RoleGuard.Log

import RoleGuard.CommandLine.Run
import Std.Time.Format

/-! # The Program

    The command line with the real files, environment and clock. The files
    that a run may read are read beforehand.
-/

namespace RoleGuard.CommandLine

/-- The date and time of day, to the millisecond. -/
def clock : IO String := do
  let now ← Std.Time.PlainDateTime.now
  return now.format "uuuu-MM-dd HH:mm:ss,SSS"

/-- The number of a system error; some calls give it as a negative one. -/
def systemNumber (code : UInt32) : Nat :=
  if code < 0x80000000 then code.toNat else 0x100000000 - code.toNat

/-- What a failure to read the file at a path means. -/
def faultOf (p : Path) : IO.Error → IO FileFault
  | .noFileOrDirectory .. => return .absent
  | .inappropriateType _ code _ => return if code = 21 then .isDirectory else .notDirectory
  | .permissionDenied .. => do
    -- a file that must not be read is still found
    match ← (IO.FS.realPath p.text).toBaseIO with
    | .ok _ => return .denied
    | .error _ => return .unsearchable
  | .invalidArgument _ code details =>
    let number := systemNumber code
    return if number = 36 then .nameTooLong else .unreachable number details
  | _ => return .unreadable 5 "Input/output error"

/-- The content of the file at a path. -/
def readFile (p : Path) : IO (Except FileFault (List UInt8)) := do
  match ← (IO.FS.readBinFile p.text).toBaseIO with
  | .ok content => return .ok content.toList
  | .error e => return .error (← faultOf p e)

/-- The files at some paths. -/
def readFiles (ps : List Path) : IO Files := do
  let contents ← ps.mapM fun p => return (p, ← readFile p)
  return ⟨fun p => (contents.lookup p).getD (.error .absent)⟩

/-- The variables of the environment that settings come from. -/
def readEnvironment : IO Environment := do
  let values ← Settings.variables.mapM fun name => return (name, ← IO.getEnv name)
  return fun name => (values.lookup name).join

/-- Shows the output of a run and gives the status of the process. -/
def finish (result : Except Escape Output) : IO UInt32 := do
  match result with
  | .ok o =>
    IO.print o.stdout
    IO.eprint o.stderr
  | .error e => IO.eprintln e.message
  return UInt32.ofNat (status result)

end RoleGuard.CommandLine

open RoleGuard.CommandLine in
/-- Runs the program. -/
def main (arguments : List String) : IO UInt32 := do
  let env ← readEnvironment
  let files ← readFiles (paths env arguments)
  finish (printed .full (run env files.host (← clock) arguments))

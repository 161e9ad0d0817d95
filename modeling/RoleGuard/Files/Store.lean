import RoleGuard.Files.Path
import RoleGuard.Text.Quoted

/-! # Files

    What the program asks of files: the content at a path, or why there is
    none.
-/

namespace RoleGuard

/-- Why a path leads to nothing that can be read. -/
inductive FileFault where
  /-- nothing has this name -/
  | absent
  /-- a file stands where a directory is needed -/
  | notDirectory
  /-- a directory stands where a file is needed -/
  | isDirectory
  /-- the file is there, but the system does not read it, for a reason of its own -/
  | unreadable (number : Nat) (label : String)
  /-- the system does not come to the file, for a reason of its own -/
  | unreachable (number : Nat) (label : String)
deriving DecidableEq, Repr

namespace FileFault

/-- The number of a fault. -/
def number : FileFault → Nat
  | absent => 2
  | notDirectory => 20
  | isDirectory => 21
  | unreadable number _ | unreachable number _ => number

/-- The name of a fault. -/
def label : FileFault → String
  | absent => "No such file or directory"
  | notDirectory => "Not a directory"
  | isDirectory => "Is a directory"
  | unreadable _ label | unreachable _ label => label

/-- The wording of a fault at a path. -/
def message (f : FileFault) (p : Path) : String :=
  "[Errno " ++ toString f.number ++ "] " ++ f.label ++ ": " ++ Text.quote p.text

/-- The file must not be read. -/
def denied : FileFault :=
  .unreadable 13 "Permission denied"

/-- A directory on the way must not be searched. -/
def unsearchable : FileFault :=
  .unreachable 13 "Permission denied"

/-- A name or the whole path is too long. -/
def nameTooLong : FileFault :=
  .unreachable 36 "File name too long"

/-- The faults that say that nothing is there; the last two are a bad descriptor and links that
    lead in a circle. -/
def saysMissing (f : FileFault) : Bool :=
  [2, 20, 9, 40].contains f.number

end FileFault

/-- The files that can be read. -/
structure Files where
  /-- the content of the file at a path -/
  read : Path → Except FileFault (List UInt8)

namespace Files

/-- Whether a file is at a path, even one that cannot be read. Where the path cannot be looked up,
    there is no answer. -/
def has (files : Files) (p : Path) : Except FileFault Bool :=
  -- no file has such a name
  if p.text.toList.contains '\x00' then .ok false
  else match files.read p with
    | .ok _ | .error (.unreadable _ _) => .ok true
    | .error .isDirectory => .ok false
    | .error f => if f.saysMissing then .ok false else .error f

end Files

end RoleGuard

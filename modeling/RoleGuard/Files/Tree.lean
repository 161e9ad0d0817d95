import RoleGuard.Files.Store

/-! # File Trees

    Files and directories are a tree, and the program works in one of its
    directories. A path leads from entry to entry, from there or from the
    root; two points lead back to the directory that holds an entry.
-/

namespace RoleGuard

/-- A file or a directory. -/
inductive Entry where
  /-- a file with its content -/
  | file (content : List UInt8)
  /-- a directory with its named entries -/
  | directory (children : List (String × Entry))

instance : Inhabited Entry := ⟨.directory []⟩

namespace Entry

/-- The entry is a file. -/
def isFile : Entry → Bool
  | file _ => true
  | directory _ => false

/-- The entry is a directory. -/
def isDirectory (e : Entry) : Bool :=
  !e.isFile

/-- The entries of a directory; a file has none. -/
def children : Entry → List (String × Entry)
  | file _ => []
  | directory children => children

/-- Puts an entry at a path of names, with the directories that lead there. A file in the way
    gives way; a directory that is there already stays. -/
def insert : List String → Entry → Entry → Entry
  | [], e, old => match e, old with
    | directory _, directory _ => old
    | _, _ => e
  | name :: names, e, old =>
    let others := old.children
    match others.lookup name with
    | some child =>
      directory (others.map fun c => if c.1 = name then (name, insert names e child) else c)
    | none => directory (others ++ [(name, insert names e (directory []))])

/-- The directory that holds the given entries. -/
def ofList (entries : List (Path × Entry)) : Entry :=
  entries.foldl (fun tree e => insert e.1.parts e.2 tree) (directory [])

end Entry

/-- An entry and the directories that hold it, the innermost first. -/
structure Position where
  /-- the entry -/
  here : Entry
  /-- the directories above it -/
  above : List Entry

/-- The most bytes of a name. -/
def longestName : Nat := 255

/-- The most bytes of a written path. -/
def longestPath : Nat := 4095

/-- The step to a part of a path. -/
def Position.step (p : Position) (part : String) : Except FileFault Position :=
  match p.here with
  | .file _ => .error .notDirectory
  | .directory children =>
    if part = ".." then
      match p.above with
      -- nothing lies above the root
      | [] => .ok p
      | e :: es => .ok ⟨e, es⟩
    else match children.lookup part with
      | some e => .ok ⟨e, .directory children :: p.above⟩
      | none => .error (if longestName < part.utf8ByteSize then .nameTooLong else .absent)

/-- A tree of files with a working directory. -/
structure Disk where
  /-- the directory at the root -/
  root : Entry
  /-- the names that lead from the root to the working directory -/
  workplace : List String := []

instance : Inhabited Disk := ⟨{ root := default }⟩

namespace Disk

/-- The parts that lead from the root to where a path leads. -/
def route (d : Disk) (p : Path) : List String :=
  if p.isAbsolute then p.parts else d.workplace ++ p.parts

/-- Where a path leads. -/
def resolve (d : Disk) (p : Path) : Except FileFault Position :=
  (d.route p).foldlM Position.step ⟨d.root, []⟩

/-- The content of the file at a path. -/
def read (d : Disk) (p : Path) : Except FileFault (List UInt8) :=
  match d.resolve p with
  -- no step is made along a path that is too long
  | .error f => .error (if longestPath < p.text.utf8ByteSize then .nameTooLong else f)
  | .ok q => match q.here with
    | .file content => .ok content
    | .directory _ => .error .isDirectory

/-- The files that can be read. -/
def files (d : Disk) : Files :=
  ⟨d.read⟩

end Disk

end RoleGuard

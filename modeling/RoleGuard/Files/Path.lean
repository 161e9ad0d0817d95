import RoleGuard.Text.Blank

/-! # Paths

    A path is a list of parts, from the working directory or from the root.
    Empty parts and single points are dropped when a path is read; two
    points are kept.
-/

namespace RoleGuard

/-- Where a path starts. -/
inductive PathStart where
  /-- at the working directory -/
  | relative
  /-- at the root -/
  | root
  /-- at the root, written with two slashes -/
  | doubleRoot
deriving DecidableEq, Repr, Inhabited

/-- A path. -/
structure Path where
  /-- where it starts -/
  start : PathStart
  /-- its parts -/
  parts : List String
deriving DecidableEq, Repr, Inhabited

namespace Path

/-- The separator of parts. -/
def separator : Char := '/'

/-- The parts of a written path that count. -/
def partsOf (cs : List Char) : List String :=
  ((Text.splitChars separator cs).filter fun part => part ≠ [] && part ≠ ['.']).map String.ofList

/-- Where a written path starts. Three and more slashes count as one. -/
def startOf (cs : List Char) : PathStart :=
  match (cs.takeWhile (· = separator)).length with
  | 0 => .relative
  | 2 => .doubleRoot
  | _ => .root

/-- Reads a path. -/
def ofText (s : String) : Path :=
  ⟨startOf s.toList, partsOf s.toList⟩

/-- The parts with separators between them. -/
def joinParts (parts : List String) : String :=
  (String.singleton separator).intercalate parts

/-- Writes a path. The working directory is a point. -/
def text (p : Path) : String :=
  match p.start with
  | .relative => if p.parts.isEmpty then "." else joinParts p.parts
  | .root => "/" ++ joinParts p.parts
  | .doubleRoot => "//" ++ joinParts p.parts

/-- The path starts at the root. -/
def isAbsolute (p : Path) : Bool :=
  p.start ≠ .relative

/-- A path seen from a base: an absolute path is itself. -/
def from_ (base p : Path) : Path :=
  if p.isAbsolute then p else ⟨base.start, base.parts ++ p.parts⟩

end Path

end RoleGuard

import RoleGuard.Defect
import RoleGuard.Files.Glob
import RoleGuard.Files.Tree

/-! # Searching Trees

    The files below a directory whose paths match a pattern. The parts of a
    pattern are name patterns, plain names, or two stars for any number of
    directories; a match may lie at any depth.
-/

namespace RoleGuard

/-- A part of a search pattern. -/
inductive Selector where
  /-- any number of directories -/
  | anyDepth
  /-- names that match a pattern -/
  | named (pieces : List Glob.Piece)
  /-- one name -/
  | exact (name : String)
  /-- the directory itself, after a slash at the end -/
  | itself

/-- An entry that a search came to, with the names that lead there. -/
structure Found where
  /-- the names from the base on -/
  names : List String
  /-- the entry -/
  position : Position

namespace Selector

/-- Two stars stand side by side. -/
def hasDoubleStar : List Char → Bool
  | '*' :: '*' :: _ => true
  | _ :: cs => hasDoubleStar cs
  | [] => false

/-- The selector of a part. -/
def ofPart (part : String) : Except Defect Selector :=
  if part = "**" then .ok .anyDepth
  else if hasDoubleStar part.toList then .error .mixedStars
  else if Glob.isPattern part then .ok (.named (Glob.pieces part))
  else .ok (.exact part)

/-- The selectors of a search pattern. -/
def ofPattern (pattern : String) : Except Defect (List Selector) := do
  let p := Path.ofText pattern
  if p.isAbsolute then throw .absolutePattern
  let selectors ← p.parts.mapM ofPart
  return selectors ++ (if pattern.toList.getLast? == some Path.separator then [.itself] else [])

end Selector

namespace Found

mutual

/-- A directory and the directories below it. -/
def directoriesAt (names : List String) (above : List Entry) : Entry → List Found
  | .file _ => []
  | .directory children =>
    ⟨names, ⟨.directory children, above⟩⟩
      :: directoriesIn names (.directory children :: above) children

/-- The directories among entries, and those below them. -/
def directoriesIn (names : List String) (above : List Entry) :
    List (String × Entry) → List Found
  | [] => []
  | (name, e) :: rest =>
    directoriesAt (names ++ [name]) above e ++ directoriesIn names above rest

end

/-- The entry below a directory with a name; nothing where no step leads there. -/
def child? (f : Found) (name : String) : Option Found :=
  match f.position.step name with
  | .ok p => some ⟨f.names ++ [name], p⟩
  | .error _ => none

/-- The entries of a directory. -/
def children (f : Found) : List Found :=
  f.position.here.children.map fun c =>
    ⟨f.names ++ [c.1], ⟨c.2, f.position.here :: f.position.above⟩⟩

/-- The name of the entry. -/
def name (f : Found) : String :=
  f.names.getLastD ""

/-- The entry can be searched further: always when nothing is left to select. -/
def continues (selectors : List Selector) (f : Found) : Bool :=
  selectors.isEmpty || f.position.here.isDirectory

/-- The entries that selectors come to from a directory. -/
def select : List Selector → Found → List Found
  | [], f => [f]
  | .itself :: _, f => [f]
  | .anyDepth :: rest, f =>
    (directoriesAt f.names f.position.above f.position.here).flatMap (select rest)
  | .named pieces :: rest, f =>
    (f.children.filter fun c =>
      Glob.matchesName pieces c.name.toList && c.continues rest).flatMap (select rest)
  | .exact name :: rest, f =>
    match f.child? name with
    | some c => if c.continues rest then select rest c else []
    | none => []

end Found

/-- The names of files below a base directory whose paths match a pattern, in the order of their
    parts and each once. -/
def Disk.search (d : Disk) (base : Path) (pattern : String) :
    Except Defect (List (List String)) := do
  let selectors ← Selector.ofPattern pattern
  match d.resolve base with
  | .error f => if f.saysMissing then return [] else throw (.unreachable f base)
  | .ok position =>
    -- every search may start at any depth
    let found := Found.select (.anyDepth :: selectors) ⟨[], position⟩
    let files := (found.filter fun f => f.position.here.isFile).map Found.names
    -- several stars may lead to one file by several ways
    return files.eraseDups.mergeSort fun a b => !decide (b < a)

end RoleGuard

/-! # Tags

    The tag of a node says what kind of value it stands for. The tags of the
    language itself form a closed list; any other name is kept as it is.
-/

namespace RoleGuard.Yaml

/-- The tags of the language. -/
inductive CoreTag where
  /-- no value -/
  | null
  /-- a truth value -/
  | bool
  /-- an integer -/
  | int
  /-- a binary64 number -/
  | float
  /-- bytes in base 64 -/
  | binary
  /-- a day or a moment -/
  | timestamp
  /-- a text -/
  | text
  /-- a list -/
  | sequence
  /-- a mapping -/
  | mapping
  /-- a set -/
  | set
  /-- an ordered mapping -/
  | orderedMap
  /-- a list of pairs -/
  | pairs
  /-- the key whose value is merged into a mapping -/
  | merge
  /-- the key of the default value -/
  | default
  /-- an indicator that has no value -/
  | indicator
deriving DecidableEq, Repr

/-- A tag. -/
inductive Tag where
  /-- a tag of the language -/
  | core (t : CoreTag)
  /-- any other tag -/
  | other (name : String)
deriving DecidableEq, Repr

/-- What the names of the language's tags begin with. -/
def tagSpace : String := "tag:yaml.org,2002:"

/-- The tags of the language with their names. -/
def coreTagNames : List (String × CoreTag) :=
  [("null", .null), ("bool", .bool), ("int", .int), ("float", .float), ("binary", .binary),
   ("timestamp", .timestamp), ("str", .text), ("seq", .sequence), ("map", .mapping), ("set", .set),
   ("omap", .orderedMap), ("pairs", .pairs), ("merge", .merge), ("value", .default),
   ("yaml", .indicator)]

/-- The tag with a name. -/
def Tag.ofName (name : String) : Tag :=
  match coreTagNames.find? fun e => tagSpace ++ e.1 == name with
  | some e => .core e.2
  | none => .other name

/-- The name of a tag. -/
def Tag.name : Tag → String
  | .core t => match coreTagNames.find? fun e => e.2 == t with
    | some e => tagSpace ++ e.1
    | none => tagSpace
  | .other name => name

end RoleGuard.Yaml

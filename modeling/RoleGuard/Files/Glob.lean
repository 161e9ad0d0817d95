/-! # Name Patterns

    A pattern for names: a star stands for any characters, a question mark
    for one, and brackets for one character out of a class. A class lists
    characters and ranges; after an exclamation mark it lists those that do
    not match. A bracket without its partner stands for itself.
-/

namespace RoleGuard.Glob

/-- A class of characters. -/
structure CharClass where
  /-- the listed characters do not match, and all others do -/
  negated : Bool
  /-- closed ranges of characters -/
  ranges : List (Char × Char)
deriving DecidableEq, Repr, Inhabited

/-- The character belongs to the class. -/
def CharClass.contains (k : CharClass) (c : Char) : Bool :=
  (k.ranges.any fun r => r.1 ≤ c && c ≤ r.2) != k.negated

/-- A piece of a pattern. -/
inductive Piece where
  /-- any characters -/
  | star
  /-- any one character -/
  | any
  /-- one character of a class -/
  | one (k : CharClass)
  /-- one given character -/
  | exact (c : Char)
deriving DecidableEq, Repr, Inhabited

/-- The ends of a text, the whole text first. -/
def suffixes : List Char → List (List Char)
  | [] => [[]]
  | c :: cs => (c :: cs) :: suffixes cs

/-- The pieces match a name. -/
def matchesName : List Piece → List Char → Bool
  | [], cs => cs.isEmpty
  | .star :: ps, cs => (suffixes cs).any (matchesName ps)
  | .any :: ps, cs => match cs with
    | [] => false
    | _ :: r => matchesName ps r
  | .one k :: ps, cs => match cs with
    | [] => false
    | c :: r => k.contains c && matchesName ps r
  | .exact d :: ps, cs => match cs with
    | [] => false
    | c :: r => c == d && matchesName ps r

/-! ## Reading classes -/

/-- Splits the inside of a class at the hyphens that stand between two characters. The first
    `keep` characters hold no such hyphen. -/
def rangeChunks (keep : Nat) : List Char → List Char → List (List Char)
  | chunk, [] => [chunk]
  | chunk, c :: cs =>
    if keep = 0 && c = '-' then chunk :: rangeChunks 2 [] cs
    else rangeChunks (keep - 1) (chunk ++ [c]) cs

/-- A hyphen at the end of a class stands for itself. -/
def closeChunks : List (List Char) → List (List Char)
  | [] => []
  | [chunk] => [chunk]
  | [chunk, []] => [chunk ++ ['-']]
  | chunk :: chunks => chunk :: closeChunks chunks

/-- Two chunks with a range between them that runs backwards lose the ends of the range. -/
def dropEmptyRanges : List (List Char) → List (List Char)
  | [] => []
  | chunk :: chunks =>
    match dropEmptyRanges chunks with
    | [] => [chunk]
    | next :: rest =>
      match chunk.getLast?, next.head? with
      | some a, some b =>
        if b < a then (chunk.dropLast ++ next.drop 1) :: rest else chunk :: next :: rest
      | _, _ => chunk :: next :: rest

/-- The ranges of chunks: each character by itself, and from each chunk to the next. -/
def chunkRanges : List (List Char) → List (Char × Char)
  | [] => []
  | chunk :: chunks =>
    chunk.map (fun c => (c, c)) ++
      (match chunk.getLast?, chunks.head?.bind List.head? with
      | some a, some b => [(a, b)]
      | _, _ => [])
      ++ chunkRanges chunks

/-- The class with the given chunks. -/
def classOfChunks : List (List Char) → CharClass
  -- a range that starts with the mark loses its start, and its hyphen stands for itself
  | ['!'] :: chunk :: chunks => ⟨true, ('-', '-') :: chunkRanges (chunk :: chunks)⟩
  -- the exclamation mark is the first character of the first chunk and no part of the class
  | ('!' :: chunk) :: chunks => ⟨true, chunkRanges (chunk :: chunks)⟩
  | chunks => ⟨false, chunkRanges chunks⟩

/-- The class with the given text between its brackets. -/
def classOf (inside : List Char) : CharClass :=
  -- a hyphen at the very start is no range
  let keep := if inside.head? == some '!' then 2 else 1
  classOfChunks (dropEmptyRanges (closeChunks (rangeChunks keep [] inside)))

/-! ## Reading patterns -/

/-- The length of the text between an opening bracket and its partner, if it has one. A bracket
    at the start of the class, perhaps after an exclamation mark, is no partner. -/
def classLength? (cs : List Char) : Option Nat :=
  let lead := if cs.head? == some '!' then 1 else 0
  -- a bracket in first place belongs to the class
  let lead := if cs[lead]? == some ']' then lead + 1 else lead
  let more := ((cs.drop lead).takeWhile (· != ']')).length
  if lead + more < cs.length then some (lead + more) else none

/-- Reads a pattern; the first `skip` characters belong to a class that was read already. -/
def piecesFrom : Nat → List Char → List Piece
  | _, [] => []
  | skip + 1, _ :: cs => piecesFrom skip cs
  | 0, c :: cs =>
    if c = '*' then .star :: piecesFrom 0 cs
    else if c = '?' then .any :: piecesFrom 0 cs
    else if c = '[' then
      match classLength? cs with
      | some n => .one (classOf (cs.take n)) :: piecesFrom (n + 1) cs
      | none => .exact c :: piecesFrom 0 cs
    else .exact c :: piecesFrom 0 cs

/-- Reads a pattern. -/
def pieces (pattern : String) : List Piece :=
  piecesFrom 0 pattern.toList

/-- The pattern has a character with a meaning of its own. -/
def isPattern (pattern : String) : Bool :=
  pattern.toList.any fun c => c = '*' || c = '?' || c = '['

end RoleGuard.Glob

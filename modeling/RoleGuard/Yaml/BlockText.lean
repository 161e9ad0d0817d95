import RoleGuard.Yaml.Cursor

/-! # Block Scalars

    A literal scalar keeps its line ends; a folded one turns a line end
    between two lines that start with no blank into a space. The head says
    how deep the lines are indented and what becomes of the last line ends:
    they are clipped to one, stripped or kept.
-/

namespace RoleGuard.Yaml

/-- What becomes of the last line ends. -/
inductive Chomp where
  /-- one is kept -/
  | clip
  /-- none is kept -/
  | strip
  /-- all are kept -/
  | keep
deriving DecidableEq, Repr

/-- The chomping that a sign asks for. -/
def Chomp.ofSign? (c : Option Char) : Option Chomp :=
  if c == some '+' then some .keep else if c == some '-' then some .strip else none

/-- The indentation that a digit asks for; 0 is refused. -/
def indentDigit? (c : Option Char) : Option (Except Failure Nat) :=
  match c with
  | some ch =>
    if ch.isDigit then
      some (if ch = '0' then .error (.problem .blockHead) else .ok (ch.toNat - 48))
    else none
  | none => none

namespace Cursor

/-- The indicators of a block scalar, in either order. -/
def blockIndicators (c : Cursor) : Except Failure (Chomp × Option Nat × Cursor) := do
  let (chomp, indent, c) ← match Chomp.ofSign? c.peek with
    | some chomp => match indentDigit? c.next.peek with
      | some n => pure (chomp, some (← n), c.advance 2)
      | none => pure (chomp, none, c.next)
    | none => match indentDigit? c.peek with
      | some n =>
        let n ← n
        match Chomp.ofSign? c.next.peek with
        | some chomp => pure (chomp, some n, c.advance 2)
        | none => pure (Chomp.clip, some n, c.next)
      | none => pure (Chomp.clip, none, c)
  if endsField c.peek then return (chomp, indent, c) else throw (.problem .blockHead)

/-- The leading empty lines, the deepest column reached among them, and the place after them. -/
def blockLead : Nat → Nat → Cursor → List Char × Nat × Cursor
  | 0, deepest, c => ([], deepest, c)
  | fuel + 1, deepest, c =>
    match c.peek with
    | some ch =>
      if ch = ' ' then blockLead fuel (max deepest c.next.column) c.next
      else if isBreak ch then
        let (taken, c) := c.takeBreak
        let (more, deepest, c) := blockLead fuel deepest c
        (taken ++ more, deepest, c)
      else ([], deepest, c)
    | none => ([], deepest, c)

/-- Passes over at most the spaces that belong to the indentation. -/
def dedent (indent : Nat) : Nat → Cursor → Cursor
  | 0, c => c
  | fuel + 1, c =>
    if c.column < indent && c.peek == some ' ' then dedent indent fuel c.next else c

/-- The empty lines at the cursor, each without its indentation. -/
def blockBreaks (indent : Nat) : Nat → Cursor → List Char × Cursor
  | 0, c => ([], c)
  | fuel + 1, c =>
    let c := c.dedent indent indent
    if c.peek.any isBreak then
      let (taken, c) := c.takeBreak
      let (more, c) := blockBreaks indent fuel c
      (taken ++ more, c)
    else ([], c)

/-- The lines of a block scalar with `breaks` in front of the first: the text without its last
    line ends, the last line end, the empty lines after it, and the place after them. -/
def blockLines (folded : Bool) (indent : Nat) :
    Nat → List Char → Cursor → List Char × List Char × List Char × Cursor
  | 0, breaks, c => ([], [], breaks, c)
  | fuel + 1, breaks, c =>
    if c.column = indent && c.peek.isSome then
      -- a line that starts with a blank keeps its line ends when text is folded
      let flush := !(c.peek.any isSpace)
      let (line, c) := c.span (!isBreak ·)
      let (ending, c) := c.takeBreak
      let (after, c) := c.blockBreaks indent (c.rest.length + 1)
      if c.column = indent && c.peek.isSome then
        let joint :=
          -- empty lines between two lines already stand for the line end that is folded away
          if folded && ending = ['\n'] && flush && !(c.peek.any isSpace) then
            if after.isEmpty then [' '] else []
          else ending
        let (more, last, tail, c) := blockLines folded indent fuel after c
        (breaks ++ line ++ joint ++ more, last, tail, c)
      else (breaks ++ line, ending, after, c)
    else ([], [], breaks, c)

/-- A block scalar at the cursor, within a collection indented by `outer` columns. -/
def blockText (folded : Bool) (outer : Int) (c : Cursor) : Except Failure (String × Cursor) := do
  let (chomp, increment, c) ← c.next.blockIndicators
  match c.restOfLine? with
  | none => throw (.problem .blockHead)
  | some c =>
    -- a given indentation counts from the block around, otherwise the deepest
    -- of the leading empty lines decides
    let least := max 1 (outer + 1).toNat
    let (indent, breaks, c) := match increment with
      | some n =>
        let indent := least + n - 1
        let (breaks, c) := c.blockBreaks indent (c.rest.length + 1)
        (indent, breaks, c)
      | none =>
        let (breaks, deepest, c) := c.blockLead (c.rest.length + 1) 0
        (max least deepest, breaks, c)
    let (text, last, tail, c) := c.blockLines folded indent (c.rest.length + 1) breaks
    let ending := match chomp with
      | .strip => []
      | .clip => last
      | .keep => last ++ tail
    return (String.ofList (text ++ ending), c)

end Cursor

end RoleGuard.Yaml

import RoleGuard.Yaml.Cursor

/-! # Plain Scalars

    A scalar without quotes ends before a comment, before a colon that a
    blank follows and, within brackets, before a bracket, comma or question
    mark. It runs over line ends as long as the lines stay indented.
-/

namespace RoleGuard.Yaml

/-- Characters that end a plain scalar within brackets. -/
def isFlowEnd (c : Char) : Bool :=
  c = ',' || c = '?' || c = '[' || c = ']' || c = '\x7b' || c = '\x7d'

/-- The length of the word at the start of a text. -/
def wordLength (flow : Bool) : List Char → Nat
  | [] => 0
  | c :: cs =>
    let ends := endsWord (some c)
      || (c = ':' && (endsWord cs.head? || (flow && cs.head?.any fun d => d ≠ '?' && isFlowEnd d)))
      || (flow && isFlowEnd c)
    if ends then 0 else wordLength flow cs + 1

/-- What follows a word of a plain scalar. -/
structure Gap where
  /-- what the blanks and line ends become; nothing when the scalar ends here -/
  text : List Char
  /-- a line end was passed -/
  crossed : Bool
  /-- the place after the gap -/
  after : Cursor

namespace Cursor

/-- The empty lines at the cursor, and the place after them, or the place of a document mark. -/
def plainBreaks : Nat → Cursor → Option (List Char) × Cursor
  | 0, c => (some [], c)
  | fuel + 1, c =>
    match c.peek with
    | some ch =>
      if ch = ' ' then plainBreaks fuel c.next
      else if isBreak ch then
        let (taken, c) := c.takeBreak
        if c.atDocumentMark then (none, c)
        else
          let (more, c) := plainBreaks fuel c
          (more.map (taken ++ ·), c)
      else (some [], c)
    | none => (some [], c)

/-- The gap at the cursor. -/
def gap (c : Cursor) : Gap :=
  let (blanks, c) := c.span (· = ' ')
  if c.peek.any isBreak then
    let (first, c) := c.takeBreak
    if c.atDocumentMark then ⟨[], true, c⟩
    else match plainBreaks (c.rest.length + 1) c with
      | (none, c) => ⟨[], true, c⟩
      | (some breaks, c) =>
        -- a single line end becomes a space, and of several the first is dropped
        let joint := if first ≠ ['\n'] then first else if breaks.isEmpty then [' '] else []
        ⟨joint ++ breaks, true, c⟩
  else ⟨blanks, false, c⟩

/-- The words of a plain scalar from the cursor on, with `before` in front of the first;
    `crossed` tells whether a line end was passed since the last word. -/
def plainWords (flow : Bool) (indent : Int) :
    Nat → List Char → Bool → Cursor → List Char × Bool × Cursor
  | 0, _, crossed, c => ([], crossed, c)
  | fuel + 1, before, crossed, c =>
    let length := if c.peek == some '#' then 0 else wordLength flow c.rest
    if length = 0 then ([], crossed, c)
    else
      let word := c.rest.take length
      let g := (c.advance length).gap
      -- without a gap the word was ended by another token; after a gap a comment or
      -- a line that is not indented ends the scalar
      let ends := g.text.isEmpty || g.after.peek == some '#'
        || (!flow && decide ((g.after.column : Int) < indent))
      let (more, crossed, c) :=
        if ends then ([], g.crossed, g.after)
        else plainWords flow indent fuel g.text g.crossed g.after
      (before ++ word ++ more, crossed, c)

/-- A plain scalar at the cursor: its text, whether its last gap passed a line end, and the
    place after it. -/
def plain (flow : Bool) (indent : Int) (c : Cursor) : String × Bool × Cursor :=
  let (text, crossed, c) := plainWords flow indent (c.rest.length + 1) [] false c
  (String.ofList text, crossed, c)

end Cursor

end RoleGuard.Yaml

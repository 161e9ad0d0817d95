import RoleGuard.Yaml.BlockText
import RoleGuard.Yaml.Plain
import RoleGuard.Yaml.Property

/-! # Tokens

    A text as a list of tokens. Blocks are delimited by tokens of their own,
    which the indentation yields. Whether a scalar or a bracket starts a key
    is known only at the colon after it; until then its place is remembered,
    and the key token is put in front of it when the colon comes.
-/

namespace RoleGuard.Yaml

/-- A token. -/
inductive Token where
  /-- a directive -/
  | directive (d : Directive)
  /-- three hyphens -/
  | documentStart
  /-- three points -/
  | documentEnd
  /-- the start of a block sequence -/
  | blockSequence
  /-- the start of a block mapping -/
  | blockMapping
  /-- the end of a block collection -/
  | blockEnd
  /-- an opening square bracket -/
  | flowSequence
  /-- an opening brace -/
  | flowMapping
  /-- a closing square bracket -/
  | flowSequenceEnd
  /-- a closing brace -/
  | flowMappingEnd
  /-- the hyphen of a block entry -/
  | dash
  /-- the comma after a flow entry -/
  | comma
  /-- the start of a key -/
  | key
  /-- the colon before a value -/
  | colon
  /-- an alias -/
  | alias (name : String)
  /-- an anchor -/
  | anchor (name : String)
  /-- a tag -/
  | tag (handle : Option String) (suffix : String)
  /-- a scalar -/
  | scalar (text : String) (plain : Bool)
  /-- the end of the text -/
  | finish
  /-- the place where reading ends early -/
  | broken (f : Failure)

instance : Inhabited Token := ⟨.finish⟩

/-- A token that may turn out to start a key. -/
structure PendingKey where
  /-- position of the token -/
  token : Nat
  /-- the block structure allows nothing but a key here -/
  required : Bool
  /-- place of the token -/
  index : Nat
  /-- its line -/
  line : Nat
  /-- its column -/
  column : Nat

/-- A text on the way to its tokens. -/
structure Lexer where
  /-- the place reached -/
  cursor : Cursor
  /-- the number of open brackets -/
  flow : Nat := 0
  /-- column of the innermost block, -1 outside of blocks -/
  indent : Int := -1
  /-- columns of the blocks around it -/
  outer : List Int := []
  /-- a key may start here -/
  allowKey : Bool := true
  /-- the pending key of each number of open brackets -/
  pending : List (Nat × PendingKey) := []
  /-- the tokens so far -/
  tokens : Array Token := #[]

/-- The longest key in front of a colon. -/
def keyLimit : Nat := 1024

namespace Lexer

/-- Adds a token. -/
def emit (s : Lexer) (t : Token) : Lexer :=
  { s with tokens := s.tokens.push t }

/-- Moves to a place. -/
def goto (s : Lexer) (c : Cursor) : Lexer :=
  { s with cursor := c }

/-- Forgets pending keys that lie in an earlier line or too far behind. -/
def dropStale (s : Lexer) : Except Failure Lexer :=
  let stale (k : PendingKey) : Bool :=
    k.line ≠ s.cursor.line || decide (k.index + keyLimit < s.cursor.index)
  -- a key must stand in the line of its colon and not too far in front of it
  if s.pending.any fun p => stale p.2 && p.2.required then .error (.problem .missingColon)
  else .ok { s with pending := s.pending.filter fun p => !stale p.2 }

/-- Forgets the pending key within the present brackets. -/
def dropPending (s : Lexer) : Except Failure Lexer :=
  match s.pending.lookup s.flow with
  | some k =>
    if k.required then .error (.problem .missingColon)
    else .ok { s with pending := s.pending.filter (·.1 ≠ s.flow) }
  | none => .ok s

/-- Remembers the next token as a pending key, where keys are allowed. -/
def savePending (s : Lexer) : Except Failure Lexer := do
  if s.allowKey then
    let s ← s.dropPending
    let c := s.cursor
    -- at the column of its block a token can only be the next key
    let required := s.flow = 0 && s.indent == (c.column : Int)
    return { s with
      pending := (s.flow, ⟨s.tokens.size, required, c.index, c.line, c.column⟩) :: s.pending }
  else return s

/-- Ends the blocks that are indented deeper than a column. -/
def unwindFrom (column : Int) : List Int → Lexer → Lexer
  | [], s => s
  | i :: is, s =>
    if s.indent > column then
      unwindFrom column is { s.emit .blockEnd with indent := i, outer := is }
    else s

/-- Ends the blocks that are indented deeper than a column; within brackets none ends. -/
def unwind (s : Lexer) (column : Int) : Lexer :=
  if s.flow = 0 then unwindFrom column s.outer s else s

/-- Starts a block at a column, if it is deeper than the present one. -/
def startBlock (s : Lexer) (column : Nat) (t : Token) : Lexer :=
  if s.indent < (column : Int) then
    { s.emit t with indent := column, outer := s.indent :: s.outer }
  else s

/-- Passes over blanks, comments and line ends. A line end allows keys, outside of brackets. -/
def skipToToken : Nat → Lexer → Lexer
  | 0, s => s
  | fuel + 1, s =>
    let c := (s.cursor.skip (· = ' ')).skipComment
    if c.peek.any isBreak then
      skipToToken fuel { s with cursor := c.takeBreak.2, allowKey := s.allowKey || s.flow = 0 }
    else s.goto c

/-- A directive or document mark: every block ends, and no key may follow at once. -/
def resetBlocks (s : Lexer) : Except Failure Lexer :=
  ((s.unwind (-1)).dropPending).map fun s => { s with allowKey := false }

/-- A token after which no key may start, but which may be a key itself. -/
def keyLike (s : Lexer) (read : Cursor → Except Failure (Token × Cursor)) :
    Except Failure Lexer := do
  let s ← s.savePending
  let (t, c) ← read s.cursor
  return { (s.emit t).goto c with allowKey := false }

/-- An opening bracket. -/
def openFlow (s : Lexer) (t : Token) : Except Failure Lexer := do
  let s ← s.savePending
  return { (s.emit t).goto s.cursor.next with flow := s.flow + 1, allowKey := true }

/-- A closing bracket. One without an opening bracket is a token like any other here. -/
def closeFlow (s : Lexer) (t : Token) : Except Failure Lexer := do
  let s ← s.dropPending
  return { (s.emit t).goto s.cursor.next with flow := s.flow - 1, allowKey := false }

/-- A comma. -/
def comma (s : Lexer) : Except Failure Lexer := do
  let s ← s.dropPending
  return { (s.emit .comma).goto s.cursor.next with allowKey := true }

/-- The hyphen of a block entry. -/
def dash (s : Lexer) : Except Failure Lexer := do
  if s.flow = 0 && !s.allowKey then throw (.problem (.misplaced "sequence entries"))
  -- within brackets a hyphen is refused later, where nodes are read
  let s := if s.flow = 0 then s.startBlock s.cursor.column .blockSequence else s
  let s ← s.dropPending
  return { (s.emit .dash).goto s.cursor.next with allowKey := true }

/-- The question mark of a key. -/
def questionMark (s : Lexer) : Except Failure Lexer := do
  if s.flow = 0 && !s.allowKey then throw (.problem (.misplaced "mapping keys"))
  let s := if s.flow = 0 then s.startBlock s.cursor.column .blockMapping else s
  let s ← s.dropPending
  return { (s.emit .key).goto s.cursor.next with allowKey := s.flow = 0 }

/-- Puts the key token in front of a pending key, and before it the start of a mapping when the
    key is indented deeper than the present block. -/
def confirmKey (s : Lexer) (k : PendingKey) : Lexer :=
  let s := { s with
    pending := s.pending.filter (·.1 ≠ s.flow)
    tokens := s.tokens.insertIdxIfInBounds k.token .key
    allowKey := false }
  -- the start of the mapping goes in front of the key token that was just put there
  if s.flow = 0 && s.indent < (k.column : Int) then
    { s with
      indent := k.column
      outer := s.indent :: s.outer
      tokens := s.tokens.insertIdxIfInBounds k.token .blockMapping }
  else s

/-- The colon before a value. -/
def colon (s : Lexer) : Except Failure Lexer := do
  let s ← match s.pending.lookup s.flow with
    | some k => pure (s.confirmKey k)
    | none =>
      -- no key is pending, so the value belongs to a key that was left out or marked
      if s.flow = 0 && !s.allowKey then throw (Failure.problem (.misplaced "mapping values"))
      let s := if s.flow = 0 then s.startBlock s.cursor.column .blockMapping else s
      let s ← s.dropPending
      pure { s with allowKey := s.flow = 0 }
  return (s.emit .colon).goto s.cursor.next

/-- A literal or folded scalar. -/
def blockScalar (s : Lexer) (folded : Bool) : Except Failure Lexer := do
  let s ← s.dropPending
  let (text, c) ← s.cursor.blockText folded s.indent
  return { (s.emit (.scalar text false)).goto c with allowKey := true }

/-- A plain scalar. A key may follow it when it ends at the start of a line. -/
def plainScalar (s : Lexer) : Except Failure Lexer := do
  let s ← s.savePending
  -- the lines of the scalar must be indented deeper than its block
  let (text, crossed, c) := s.cursor.plain (s.flow ≠ 0) (s.indent + 1)
  return { (s.emit (.scalar text true)).goto c with allowKey := crossed }

/-- A plain scalar may start with these characters. -/
def startsPlain (s : Lexer) (ch : Char) : Bool :=
  let indicators := "-?:,[]\x7b\x7d#&*!|>\x27\x22%@\x60".toList
  (!endsWord (some ch) && !indicators.contains ch)
    || (!endsWord (s.cursor.peekAt 1) && (ch = '-' || (s.flow = 0 && (ch = '?' || ch = ':'))))

/-- The token at a character. -/
def tokenAt (s : Lexer) (ch : Char) : Except Failure Lexer :=
  let c := s.cursor
  let spaced := endsWord (c.peekAt 1)
  let flow := s.flow ≠ 0
  -- the marks of the first column come first, since hyphens and points may also start scalars
  if ch = '%' && c.column = 0 then do
    let s ← s.resetBlocks
    let (d, c) ← c.directive
    return (s.emit (.directive d)).goto c
  else if ch = '-' && c.column = 0 && c.atMark '-' then
    s.resetBlocks.map fun s => (s.emit .documentStart).goto (c.advance 3)
  else if ch = '.' && c.column = 0 && c.atMark '.' then
    s.resetBlocks.map fun s => (s.emit .documentEnd).goto (c.advance 3)
  else if ch = '[' then s.openFlow .flowSequence
  else if ch = '\x7b' then s.openFlow .flowMapping
  else if ch = ']' then s.closeFlow .flowSequenceEnd
  else if ch = '\x7d' then s.closeFlow .flowMappingEnd
  else if ch = ',' then s.comma
  -- the same characters start a scalar when no blank follows
  else if ch = '-' && spaced then s.dash
  else if ch = '?' && (flow || spaced) then s.questionMark
  else if ch = ':' && (flow || spaced) then s.colon
  else if ch = '*' then s.keyLike fun c => c.anchorName.map fun r => (.alias r.1, r.2)
  else if ch = '&' then s.keyLike fun c => c.anchorName.map fun r => (.anchor r.1, r.2)
  else if ch = '!' then s.keyLike fun c => c.tag.map fun r => (.tag r.1 r.2.1, r.2.2)
  else if ch = '|' && !flow then s.blockScalar false
  else if ch = '>' && !flow then s.blockScalar true
  else if ch = Text.singleQuote || ch = Text.doubleQuote then
    s.keyLike fun c => (c.quoted ch).map fun r => (.scalar r.1 false, r.2)
  else if s.startsPlain ch then s.plainScalar
  else .error (.problem (.strayCharacter ch))

/-- The end of the text. -/
def finish (s : Lexer) : Except Failure Lexer :=
  ((s.unwind (-1)).dropPending).map fun s => s.emit .finish

/-- The tokens from here on. -/
def run : Nat → Lexer → Array Token
  | 0, s => (s.emit .finish).tokens
  | fuel + 1, s =>
    -- the column of the next token decides which blocks end before it
    let start := skipToToken (s.cursor.rest.length + 1) s
    let unwound := start.dropStale.map fun s => s.unwind s.cursor.column
    match unwound with
    | .error f => (s.emit (.broken f)).tokens
    | .ok s => match s.cursor.peek with
      | none => match s.finish with
        | .ok s => s.tokens
        | .error f => (s.emit (.broken f)).tokens
      | some ch => match s.tokenAt ch with
        | .ok s => run fuel s
        | .error f => (s.emit (.broken f)).tokens

end Lexer

/-- The tokens of a text. The last one is its end, or the place where reading ends early. -/
def tokens (text : List Char) : List Token :=
  match text.find? (!isAcceptable ·) with
  | some c => [.broken (.problem (.unprintable c))]
  | none =>
    let text := if text.head? == some byteOrderMark then text.drop 1 else text
    (Lexer.run (text.length + 1) { cursor := { rest := text } }).toList

end RoleGuard.Yaml

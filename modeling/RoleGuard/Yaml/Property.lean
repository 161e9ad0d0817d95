import RoleGuard.Yaml.Quoted

/-! # Anchors, Tags and Directives

    The properties that stand before a node, and the directives that stand
    before a document.
-/

namespace RoleGuard.Yaml

/-- Characters of a tag that stand for themselves. -/
def isUriChar (c : Char) : Bool :=
  c.isAlphanum || "-;/?:@&=+$,_.!~*\x27()[]".toList.contains c

/-- Characters that may follow the name of an anchor or alias. -/
def followsAnchor : Option Char → Bool
  | none => true
  | some c => endsWord (some c) || "?:,]\x7d%@\x60".toList.contains c

/-- A directive before a document. -/
inductive Directive where
  /-- the version of the language -/
  | version (major : Nat)
  /-- what a tag handle stands for -/
  | handle (name uri : String)
  /-- any other directive, which has no effect -/
  | other
deriving DecidableEq, Repr

namespace Cursor

/-- The name of an anchor or alias after its sign. -/
def anchorName (c : Cursor) : Except Failure (String × Cursor) :=
  let (name, c) := c.next.span isNameChar
  if name.isEmpty || !followsAnchor c.peek then .error (.problem .anchor)
  else .ok (String.ofList name, c)

/-- The bytes that percent signs and pairs of digits stand for. -/
def percentBytes : Nat → Cursor → Except Failure (List UInt8 × Cursor)
  | 0, c => .ok ([], c)
  | fuel + 1, c =>
    if c.peek == some '%' then
      match hexNumber? 2 (c.rest.drop 1) with
      | some n => do
        let (more, c) ← percentBytes fuel (c.advance 3)
        return (UInt8.ofNat n :: more, c)
      | none => .error (.problem .tag)
    else .ok ([], c)

/-- The pieces of a tag, plain or in percent signs. -/
def uriPieces : Nat → Cursor → Except Failure (List Char × Cursor)
  | 0, c => .ok ([], c)
  | fuel + 1, c => do
    let (piece, c) := c.span isUriChar
    if c.peek == some '%' then
      -- neighbouring percent signs may encode one character together
      let (bytes, c) ← percentBytes (c.rest.length + 1) c
      match Text.Utf8.decodeFrom 0 bytes with
      | .ok decoded =>
        let (more, c) ← uriPieces fuel c
        return (piece ++ decoded ++ more, c)
      | .error _ => throw (.problem .tag)
    else return (piece, c)

/-- The name of a tag; it has at least one character. -/
def tagUri (c : Cursor) : Except Failure (String × Cursor) := do
  let (uri, after) ← uriPieces (c.rest.length + 1) c
  if after.index = c.index then throw (.problem .tag)
  return (String.ofList uri, after)

/-- A tag handle: an exclamation mark alone, or a name between two of them. -/
def tagHandle (c : Cursor) : Except Failure (String × Cursor) :=
  if c.peek ≠ some '!' then .error (.problem .tag)
  else if c.peekAt 1 == some ' ' then .ok ("!", c.next)
  else
    let (name, after) := c.next.span isNameChar
    if after.peek == some '!' then .ok ("!" ++ String.ofList name ++ "!", after.next)
    else .error (.problem .tag)

/-- A tag at the cursor: its handle, if it has one, and the rest of its name. -/
def tag (c : Cursor) : Except Failure (Option String × String × Cursor) := do
  let (handle, suffix, c) ←
    if c.peekAt 1 == some '<' then do
      let (uri, c) ← (c.advance 2).tagUri
      if c.peek ≠ some '>' then throw (Failure.problem .tag)
      pure (none, uri, c.next)
    else if endsWord (c.peekAt 1) then pure (none, "!", c.next)
    else do
      -- a second exclamation mark anywhere in the word makes its front a handle
      let word := (c.rest.drop 1).takeWhile fun ch => !endsField (some ch)
      let (handle, c) ← if word.contains '!' then c.tagHandle else pure ("!", c.next)
      let (uri, c) ← c.tagUri
      pure (some handle, uri, c)
  if endsField c.peek then return (handle, suffix, c) else throw (.problem .tag)

/-- A number of a version. -/
def versionNumber (c : Cursor) : Except Failure (Nat × Cursor) :=
  let (digits, c) := c.span Char.isDigit
  if digits.isEmpty then .error (.problem .directive)
  else .ok (digits.foldl (fun n d => n * 10 + (d.toNat - 48)) 0, c)

/-- The value of a version directive. -/
def versionValue (c : Cursor) : Except Failure (Directive × Cursor) := do
  let (major, c) ← (c.skip (· = ' ')).versionNumber
  if c.peek ≠ some '.' then throw (.problem .directive)
  let (_, c) ← c.next.versionNumber
  if endsField c.peek then return (.version major, c) else throw (.problem .directive)

/-- The value of a directive for a tag handle. -/
def handleValue (c : Cursor) : Except Failure (Directive × Cursor) := do
  let (name, c) ← (c.skip (· = ' ')).tagHandle
  if c.peek ≠ some ' ' then throw (.problem .directive)
  let (uri, c) ← (c.skip (· = ' ')).tagUri
  if endsField c.peek then return (.handle name uri, c) else throw (.problem .directive)

/-- A directive at the cursor, with the rest of its line. -/
def directive (c : Cursor) : Except Failure (Directive × Cursor) := do
  let (name, c) := c.next.span isNameChar
  if name.isEmpty || !endsField c.peek then throw (.problem .directive)
  let (d, c) ←
    if name = "YAML".toList then c.versionValue
    else if name = "TAG".toList then c.handleValue
    else pure (.other, c.skip (!isBreak ·))
  match c.restOfLine? with
  | some c => return (d, c)
  | none => throw (.problem .directive)

end Cursor

end RoleGuard.Yaml

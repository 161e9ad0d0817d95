import RoleGuard.Yaml.Node.Reader
import RoleGuard.Yaml.Node.Value

/-! # Documents

    A text is a stream of documents. The first document may start without a
    mark; every other one starts with three hyphens, perhaps after
    directives. A failure in one document hides whatever comes after it.
-/

namespace RoleGuard.Yaml

/-- The directives before a document. -/
structure Preamble where
  /-- a version was given -/
  versioned : Bool := false
  /-- what tag handles stand for -/
  handles : List (String × String) := []

namespace Preamble

/-- Adds a directive. -/
def add (p : Preamble) : Directive → Except Problem Preamble
  | .version major =>
    if p.versioned then .error .repeatedVersion
    else if major ≠ 1 then .error (.version major)
    else .ok { p with versioned := true }
  | .handle name uri =>
    if p.handles.any (·.1 == name) then .error (.repeatedHandle name)
    else .ok { p with handles := p.handles ++ [(name, uri)] }
  | .other => .ok p

/-- What tag handles stand for, those without a directive included. -/
def allHandles (p : Preamble) : List (String × String) :=
  p.handles ++ Node.usualHandles

end Preamble

namespace Reader

/-- The directives at the start of tokens, and the tokens after them. -/
def directives (p : Preamble) : List Token → Except Failure (Preamble × List Token)
  | .directive d :: rest => match p.add d with
    | .ok p => directives p rest
    | .error problem => .error (.problem problem)
  | rest => .ok (p, rest)

/-- A token that ends a document or stands before one. -/
def endsDocument : Token → Bool
  | .directive _ | .documentStart | .documentEnd | .finish => true
  | _ => false

/-- The root of a document and the mark at its end. The token after the root is looked at. -/
def closed (root : Reader Node) : Reader Node := do
  let n ← root
  -- the token behind the root is looked at in any case, so a break there is found here
  if let .documentEnd ← peek then skip
  return n

/-- The root of a document, for a number of tokens. -/
def root (length : Nat) : Reader Node :=
  node (4 * length + 4) .block

/-- The root of a document after its mark; it may be left out. -/
def optionalRoot (length : Nat) : Reader Node := do
  if endsDocument (← peek) then return Node.absent else root length

/-- Reads a document that starts with its root. -/
def bare (tokens : List Token) : Except Failure (Node × List Token) :=
  ((closed (root tokens.length)).run { rest := tokens }).map fun r => (r.1, r.2.rest)

/-- Reads a document that starts with its mark; none at the end of the text. -/
def marked (tokens : List Token) : Except Failure (Option (Node × List Token)) :=
  let tokens := tokens.dropWhile fun t => match t with
    | .documentEnd => true
    | _ => false
  match tokens with
  | [] | .finish :: _ => .ok none
  | .broken f :: _ => .error f
  | tokens => do
    let (preamble, tokens) ← directives {} tokens
    match tokens with
    | .documentStart :: rest =>
      let (n, s) ←
        (closed (optionalRoot rest.length)).run { rest, handles := preamble.allHandles }
      return some (n, s.rest)
    | .broken f :: _ => .error f
    | _ => .error (.problem (.unexpected "the start of a document"))

/-- A document may start here without a mark. -/
def startsBare : List Token → Bool
  | [] => false
  | .directive _ :: _ | .documentStart :: _ | .finish :: _ | .broken _ :: _ => false
  | _ => true

end Reader

/-- The root nodes of documents, up to the failure that ends the reading if there is one. -/
structure Stream where
  /-- the root nodes -/
  roots : List Node
  /-- why reading ends early -/
  failure : Option Failure

namespace Stream

/-- A stream with another document in front. -/
def cons (root : Node) (s : Stream) : Stream :=
  { s with roots := root :: s.roots }

/-- The documents that start with their marks. -/
def ofMarked : Nat → List Token → Stream
  | 0, _ => ⟨[], none⟩
  | fuel + 1, tokens => match Reader.marked tokens with
    | .error f => ⟨[], some f⟩
    | .ok none => ⟨[], none⟩
    | .ok (some (root, rest)) => (ofMarked fuel rest).cons root

/-- The documents of a list of tokens. -/
def ofTokens (tokens : List Token) : Stream :=
  if Reader.startsBare tokens then
    match Reader.bare tokens with
    | .error f => ⟨[], some f⟩
    | .ok (root, rest) => (ofMarked (tokens.length + 1) rest).cons root
  else ofMarked (tokens.length + 1) tokens

/-- The values of the documents, or the first failure. -/
def values (s : Stream) : Except Failure (List Value) := do
  -- a failure in a value comes before the end of the reading, which lies behind it
  let values ← s.roots.mapM Node.value
  match s.failure with
  | some f => throw f
  | none => return values

end Stream

/-- The values of the documents of a text. -/
def documents (text : String) : Except Failure (List Value) :=
  (Stream.ofTokens (tokens text.toList)).values

end RoleGuard.Yaml

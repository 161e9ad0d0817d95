import RoleGuard.Yaml.Node

/-! # Reading Nodes

    Nodes are read from tokens by recursive descent. An anchor names its
    node until the end of the document, and each name is given once.
-/

namespace RoleGuard.Yaml

/-- A document on the way to its nodes. -/
structure Reading where
  /-- the tokens to come -/
  rest : List Token
  /-- what tag handles stand for -/
  handles : List (String × String) := Node.usualHandles
  /-- the nodes with an anchor so far; a node that is still being read is missing -/
  anchors : List (String × Option Node) := []

/-- Reads a part of a document. -/
abbrev Reader (α : Type) := StateT Reading (Except Failure) α

/-- Where a node stands. -/
inductive Place where
  /-- between brackets -/
  | flow
  /-- in a block -/
  | block
  /-- in a block, where a sequence may stand without indentation -/
  | pair
deriving DecidableEq, Repr

/-- The anchor and the tag before a node. -/
structure Properties where
  /-- name of the anchor -/
  anchor : Option String := none
  /-- name of the tag -/
  tag : Option String := none

namespace Reader

/-- The next token. Where reading ends early there is none. -/
def peek : Reader Token := fun s =>
  match s.rest with
  | [] => .ok (.finish, s)
  | .broken f :: _ => .error f
  | t :: _ => .ok (t, s)

/-- Passes over the next token. -/
def skip : Reader Unit := fun s =>
  .ok ((), { s with rest := s.rest.drop 1 })

/-- Another token is needed. -/
def needed {α : Type} (what : String) : Reader α := fun _ =>
  .error (.problem (.unexpected what))

/-- Refuses the text. -/
def refuse {α : Type} (p : Problem) : Reader α := fun _ =>
  .error (.problem p)

/-- The name of a tag after its handle was replaced. -/
def tagName (handle : Option String) (suffix : String) : Reader String := do
  match handle with
  | none => return suffix
  | some h => match (← get).handles.lookup h with
    | some uri => return uri ++ suffix
    | none => refuse (.unknownHandle h)

/-- A tag, if there is one. -/
def tag? : Reader (Option String) := do
  match ← peek with
  | .tag handle suffix =>
    skip
    return some (← tagName handle suffix)
  | _ => return none

/-- An anchor, if there is one. -/
def anchor? : Reader (Option String) := do
  match ← peek with
  | .anchor name =>
    skip
    return some name
  | _ => return none

/-- The properties before a node, in either order. -/
def properties : Reader Properties := do
  match ← anchor? with
  | some name => return ⟨some name, ← tag?⟩
  | none =>
    let tag ← tag?
    -- an anchor can follow the tag only when none stood before it
    if tag.isSome then return ⟨← anchor?, tag⟩ else return {}

/-- The node that an alias stands for. -/
def aliased (name : String) : Reader Node := do
  match (← get).anchors.lookup name with
  | some (some n) => return n
  | some none => throw (.defect .selfContained)
  | none => refuse (.unknownAlias name)

/-- Refuses an anchor whose name is taken. -/
def checkAnchor (p : Properties) : Reader Unit := do
  match p.anchor with
  | none => return ()
  | some name =>
    if (← get).anchors.any (·.1 == name) then refuse (.repeatedAnchor name)

/-- Gives the name of an anchor to a node, or to one that is still being read. -/
def enter (p : Properties) (n : Option Node) : Reader Unit := do
  if let some name := p.anchor then
    modify fun s => { s with anchors := (name, n) :: s.anchors }

/-- A node under its anchor. -/
def keep (p : Properties) (n : Node) : Reader Node := do
  enter p (some n)
  return n

/-- A collection. -/
def collection (p : Properties) (read : Reader Node) : Reader Node := do
  -- an alias to the collection from within it finds nothing, one behind it the node
  enter p none
  keep p (← read)

/-- A token that ends a node between brackets which was left out. -/
def endsFlowNode : Token → Bool
  | .colon | .comma | .flowSequenceEnd | .flowMappingEnd => true
  | _ => false

/-- A token that ends a node of a block mapping which was left out. -/
def endsBlockNode : Token → Bool
  | .key | .colon | .blockEnd => true
  | _ => false

/-- Passes over the comma before an item that is not the first. -/
def separator (first : Bool) : Reader Unit := do
  match ← peek with
  | .flowSequenceEnd | .flowMappingEnd => return ()
  | .comma => if !first then skip
  | _ => if !first then needed "a comma or a closing bracket"

mutual

/-- A node. -/
def node : Nat → Place → Reader Node
  | 0, _ => needed "the end of the text"
  | fuel + 1, place => do
    if let .alias name ← peek then
      skip
      return ← aliased name
    let p ← properties
    checkAnchor p
    let sequence (items : Reader (List Node)) : Reader Node :=
      collection p (return .sequence (Node.collectionTag p.tag .sequence) (← items))
    let mapping (pairs : Reader (List (Node × Node))) : Reader Node :=
      collection p (return .mapping (Node.collectionTag p.tag .mapping) (← pairs))
    match ← peek, place with
    -- below a key a sequence may start at the column of the key, without a block of its own
    | .dash, .pair => sequence (looseItems fuel)
    | .scalar text plain, _ =>
      skip
      keep p (.scalar (Node.scalarTag p.tag text plain) text)
    | .flowSequence, _ =>
      skip
      sequence (flowItems fuel true)
    | .flowMapping, _ =>
      skip
      mapping (flowPairs fuel true)
    | .blockSequence, .block | .blockSequence, .pair =>
      skip
      sequence (blockItems fuel)
    | .blockMapping, .block | .blockMapping, .pair =>
      skip
      mapping (blockPairs fuel)
    | _, _ =>
      -- after properties the content may be left out
      if p.anchor.isNone && p.tag.isNone then needed "the content of a node"
      else keep p (.scalar (Node.scalarTag p.tag "" true) "")

/-- The rest of a block sequence. -/
def blockItems : Nat → Reader (List Node)
  | 0 => needed "the end of the text"
  | fuel + 1 => do
    match ← peek with
    | .dash =>
      skip
      let item ← match ← peek with
        | .dash | .blockEnd => pure Node.absent
        | _ => node fuel .block
      return item :: (← blockItems fuel)
    | .blockEnd =>
      skip
      return []
    | _ => needed "the end of a block"

/-- The rest of a sequence without indentation. -/
def looseItems : Nat → Reader (List Node)
  | 0 => needed "the end of the text"
  | fuel + 1 => do
    match ← peek with
    | .dash =>
      skip
      let item ← match ← peek with
        | .dash | .key | .colon | .blockEnd => pure Node.absent
        | _ => node fuel .block
      return item :: (← looseItems fuel)
    | _ => return []

/-- The rest of a block mapping. -/
def blockPairs : Nat → Reader (List (Node × Node))
  | 0 => needed "the end of the text"
  | fuel + 1 => do
    match ← peek with
    | .key =>
      skip
      let key ← if endsBlockNode (← peek) then pure Node.absent else node fuel .pair
      let value ← match ← peek with
        | .colon => do
          skip
          if endsBlockNode (← peek) then pure Node.absent else node fuel .pair
        | _ => pure Node.absent
      return (key, value) :: (← blockPairs fuel)
    | .blockEnd =>
      skip
      return []
    | _ => needed "the end of a block"

/-- A key between brackets with its value. -/
def flowPair : Nat → Reader (Node × Node)
  | 0 => needed "the end of the text"
  | fuel + 1 => do
    let key ← if endsFlowNode (← peek) then pure Node.absent else node fuel .flow
    match ← peek with
    | .colon =>
      skip
      let value ← if endsFlowNode (← peek) then pure Node.absent else node fuel .flow
      return (key, value)
    | _ => return (key, Node.absent)

/-- The rest of a sequence between brackets; a comma stands before every item but the first. -/
def flowItems : Nat → Bool → Reader (List Node)
  | 0, _ => needed "the end of the text"
  | fuel + 1, first => do
    separator first
    match ← peek with
    | .flowSequenceEnd =>
      skip
      return []
    | .key =>
      skip
      let (key, value) ← flowPair fuel
      -- a pair between square brackets is a mapping by itself
      return .mapping (.core .mapping) [(key, value)] :: (← flowItems fuel false)
    | _ =>
      let item ← node fuel .flow
      return item :: (← flowItems fuel false)

/-- The rest of a mapping between brackets; a comma stands before every key but the first. -/
def flowPairs : Nat → Bool → Reader (List (Node × Node))
  | 0, _ => needed "the end of the text"
  | fuel + 1, first => do
    separator first
    match ← peek with
    | .flowMappingEnd =>
      skip
      return []
    | .key =>
      skip
      let pair ← flowPair fuel
      return pair :: (← flowPairs fuel false)
    | _ =>
      let key ← node fuel .flow
      return (key, Node.absent) :: (← flowPairs fuel false)

end

end Reader

end RoleGuard.Yaml

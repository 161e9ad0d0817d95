import RoleGuard.Yaml.Node
import RoleGuard.Yaml.Scalar.Value

/-! # Values of Nodes

    The value that a node stands for. Merge keys are replaced by the pairs
    of the mappings they name, in front of the pairs of their own mapping,
    so that a mapping's own pairs win. Of several failures the shallowest
    one is reported, and of equally deep ones the first.
-/

namespace RoleGuard.Yaml

/-- A value, or the failure to report with its depth. -/
abbrev Outcome (α : Type) := Except (Nat × Failure) α

namespace Outcome

/-- A failure at depth 0. -/
def fail {α : Type} (f : Failure) : Outcome α :=
  .error (0, f)

/-- A problem at depth 0. -/
def refuse {α : Type} (p : Problem) : Outcome α :=
  .error (0, .problem p)

/-- An outcome one level further down. -/
def deeper {α : Type} (o : Outcome α) : Outcome α :=
  o.mapError fun e => (e.1 + 1, e.2)

/-- Two outcomes side by side. -/
def both {α β : Type} : Outcome α → Outcome β → Outcome (α × β)
  | .ok a, .ok b => .ok (a, b)
  | .ok _, .error f => .error f
  | .error e, .ok _ => .error e
  -- the shallower failure, and of equally deep ones the first
  | .error e, .error f => .error (if f.1 < e.1 then f else e)

/-- An outcome in front of a list of them. -/
def cons {α : Type} (o : Outcome α) (os : Outcome (List α)) : Outcome (List α) :=
  (both o os).map fun p => p.1 :: p.2

/-- A list of outcomes in front of another. -/
def append {α : Type} (o p : Outcome (List α)) : Outcome (List α) :=
  (both o p).map fun q => q.1 ++ q.2

end Outcome

/-- The entries of a mapping node, each part with its own failures. -/
structure Entries where
  /-- whether the merges can be carried out -/
  merges : Outcome Unit
  /-- the entries of the merged mappings -/
  merged : Outcome (List (Value × Value))
  /-- the entries of the mapping itself -/
  own : Outcome (List (Value × Value))

namespace Entries

/-- No entries. -/
def empty : Entries :=
  ⟨.ok (), .ok [], .ok []⟩

/-- The entries together, the merged ones first. Failing merges are reported before failing
    entries. -/
def all (e : Entries) : Outcome (List (Value × Value)) :=
  -- later entries win over earlier ones, so what is merged stands in front
  (e.merges.both (e.merged.append e.own)).map (·.2)

/-- Puts an entry in front. -/
def cons (entry : Outcome (Value × Value)) (e : Entries) : Entries :=
  { e with own := entry.cons e.own }

/-- Puts a merge in front. -/
def merge (merges : Outcome Unit) (merged : Outcome (List (Value × Value))) (e : Entries) :
    Entries :=
  { e with
    merges := (merges.both e.merges).map fun _ => ()
    merged := merged.append e.merged }

end Entries

namespace Node

/-- The tag of a node. -/
def tag : Node → Tag
  | scalar t _ => t
  | sequence t _ => t
  | mapping t _ => t

mutual

/-- The text of a scalar, or of the default value of a mapping. -/
def text? : Node → Option String
  | scalar _ text => some text
  | mapping _ pairs => defaultText? pairs
  | _ => none

/-- The text under the first default key. -/
def defaultText? : List (Node × Node) → Option String
  | [] => none
  | (k, v) :: rest => if k.tag = .core .default then text? v else defaultText? rest

end

/-- The value of a node under the tag of a scalar. -/
def scalarOutcome (t : CoreTag) (text? : Option String) : Outcome Value :=
  match text? with
  | none => .refuse (.wrongKind "a scalar")
  | some text => match scalarValue t text with
    | some r => r.mapError fun f => (0, f)
    | none => .refuse (.unknownTag (Tag.core t).name)

/-- The value of a node which is not of the kind that the collection tags need. -/
def uncollected (tag : Tag) (text? : Option String) : Outcome Value :=
  match tag with
  | .other name => .refuse (.unknownTag name)
  | .core .sequence | .core .orderedMap | .core .pairs =>
    (Outcome.refuse (.wrongKind "a sequence")).deeper
  | .core .mapping | .core .set => (Outcome.refuse (.wrongKind "a mapping")).deeper
  | .core t => scalarOutcome t text?

/-- The key of an entry. The default key is a text. -/
def keyOutcome (tag : Tag) (value : Outcome Value) (text? : Option String) : Outcome Value :=
  match tag with
  | .core .default => scalarOutcome .text text?
  | .core .sequence | .core .mapping | .core .set | .core .orderedMap | .core .pairs =>
    .refuse .collectionKey
  | _ => value

mutual

/-- The value of a node. -/
def outcome : Node → Outcome Value
  | scalar t text => uncollected t (some text)
  | sequence t items => match t with
    | .core .sequence => (Outcome.deeper (itemOutcomes items)).map .list
    | .core .orderedMap | .core .pairs => (Outcome.deeper (pairOutcomes items)).map .list
    | t => uncollected t none
  | mapping t pairs => match t with
    | .core .mapping => (entries pairs).all.deeper.map fun es => .map (Value.collect es)
    | .core .set =>
      (entries pairs).all.deeper.map fun es => .set ((Value.collect es).map (·.1))
    | t => uncollected t (defaultText? pairs)

/-- The values of nodes. -/
def itemOutcomes : List Node → Outcome (List Value)
  | [] => .ok []
  | n :: ns => (outcome n).cons (itemOutcomes ns)

/-- The values of mappings with one pair each. -/
def pairOutcomes : List Node → Outcome (List Value)
  | [] => .ok []
  | mapping _ [(k, v)] :: ns =>
    let pair := ((outcome k).both (outcome v)).map fun p => Value.list [p.1, p.2]
    Outcome.cons pair (pairOutcomes ns)
  | _ :: _ => .refuse (.wrongKind "a mapping with one pair")

/-- The entries of a mapping. -/
def entries : List (Node × Node) → Entries
  | [] => .empty
  | (k, v) :: rest =>
    if k.tag = .core .merge then
      let m := mergeOutcome v
      (entries rest).merge m.1 m.2
    else
      (entries rest).cons
        ((keyOutcome k.tag (outcome k) (text? k)).both (outcome v))

/-- What a merge of a node adds, and whether it can be carried out. -/
def mergeOutcome : Node → Outcome Unit × Outcome (List (Value × Value))
  | mapping _ pairs =>
    let e := entries pairs
    (e.merges, e.merged.append e.own)
  | sequence _ items => mergeItems items
  | scalar _ _ => (.refuse .badMerge, .ok [])

/-- What a merge of several mappings adds: the last one comes first. -/
def mergeItems : List Node → Outcome Unit × Outcome (List (Value × Value))
  | [] => (.ok (), .ok [])
  | mapping _ pairs :: ns =>
    let e := entries pairs
    let rest := mergeItems ns
    -- of several mappings the first wins, so it stands last
    ((e.merges.both rest.1).map (fun _ => ()), rest.2.append (e.merged.append e.own))
  | _ :: _ => (.refuse .badMerge, .ok [])

end

/-- The value of a node, or the failure to report. -/
def value (n : Node) : Except Failure Value :=
  n.outcome.mapError (·.2)

end Node

end RoleGuard.Yaml

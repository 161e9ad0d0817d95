import RoleGuard.Yaml.Token
import RoleGuard.Yaml.Scalar

/-! # Nodes

    A document as a tree of nodes with tags. Anchors and aliases are
    resolved: an alias stands for a copy of the node it names. A node that
    holds itself is no tree, so an alias within the node it names is a
    defect.
-/

namespace RoleGuard.Yaml

/-- A node. -/
inductive Node where
  /-- a scalar -/
  | scalar (tag : Tag) (text : String)
  /-- a list of nodes -/
  | sequence (tag : Tag) (items : List Node)
  /-- a list of keys with values -/
  | mapping (tag : Tag) (pairs : List (Node × Node))

instance : Inhabited Node := ⟨.scalar (.core .null) ""⟩

namespace Node

/-- The scalar that stands where a node is left out. -/
def absent : Node :=
  .scalar (.core .null) ""

/-- The tag of a scalar with an explicit tag or without one. The tag `!` asks for the tag of the
    spelling. -/
def scalarTag (explicit : Option String) (text : String) (plain : Bool) : Tag :=
  match explicit with
  | none => .core (if plain then plainTag text else .text)
  | some name => if name = "!" then .core (plainTag text) else .ofName name

/-- The tag of a collection with an explicit tag or without one. -/
def collectionTag (explicit : Option String) (usual : CoreTag) : Tag :=
  match explicit with
  | none => .core usual
  | some name => if name = "!" then .core usual else .ofName name

/-- What tag handles stand for without directives. -/
def usualHandles : List (String × String) :=
  [("!", "!"), ("!!", tagSpace)]

end Node

end RoleGuard.Yaml

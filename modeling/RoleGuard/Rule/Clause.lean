import RoleGuard.Rule.Text
import RoleGuard.Text.Pieces
import RoleGuard.Text.Quoted

/-! # Clauses of an Annotation

    Behind its marker an annotation is a list of clauses with commas between
    them. A clause is a key, an equals sign and elements with semicolons
    between them. This is how those who act on an annotation read it.
-/

namespace RoleGuard

/-- One clause of an annotation. -/
structure Clause where
  /-- what the clause is about -/
  key : String
  /-- what it asks for, in order -/
  elements : List String
deriving DecidableEq, Repr

/-- The value holds no separator of annotations. -/
def Separable (v : String) : Prop :=
  ',' ∉ v.toList ∧ ';' ∉ v.toList

instance (v : String) : Decidable (Separable v) :=
  inferInstanceAs (Decidable (_ ∧ _))

/-- The text can stand before the equals sign of a clause. -/
def IsKey (key : String) : Prop :=
  Separable key ∧ '=' ∉ key.toList

instance (key : String) : Decidable (IsKey key) :=
  inferInstanceAs (Decidable (_ ∧ _))

namespace Clause

/-- Writes a clause. -/
def text (c : Clause) : String :=
  c.key ++ "=" ++ joined c.elements

/-- Reads a clause. The key ends at the first equals sign, and the elements begin behind it. -/
def ofText (s : String) : Clause where
  key := String.ofList (s.toList.takeWhile (· ≠ '='))
  elements := Text.pieces ';' (String.ofList ((s.toList.dropWhile (· ≠ '=')).drop 1))

/-- Reads all clauses of an annotation, from the text behind its marker and its kind. -/
def listOf (body : String) : List Clause :=
  (Text.pieces ',' body).map ofText

/-- The clause keeps its key and its elements when it is written. -/
structure Readable (c : Clause) : Prop where
  /-- it has a key -/
  key : IsKey c.key
  /-- there are elements -/
  ne_nil : c.elements ≠ []
  /-- no separator stands in them -/
  elements : ∀ e ∈ c.elements, Separable e

end Clause

/-- What is written for the values of an axis. A void axis is written like the empty value. -/
def written (values : List String) : List String :=
  if values.isEmpty then [""] else values

/-- The clauses about instance names. There is none without names. -/
def nameClauses (names : List String) : List Clause :=
  if names.isEmpty then [] else [⟨"resourceNames", names⟩]

namespace Rule

/-- The elements that are written for the groups of a rule. -/
def groupElements (r : Rule) : List String :=
  if written r.apiGroups = [""] then [coreGroupToken] else written r.apiGroups

/-- The clauses of an annotation that asks for the rule. -/
def clauses (r : Rule) : List Clause :=
  [⟨"groups", r.groupElements⟩, ⟨"resources", written r.resources⟩, ⟨"verbs", written r.verbs⟩]
    ++ nameClauses r.resourceNames

/-- The annotation behind its marker and its kind. -/
def clauseText (r : Rule) : String :=
  ",".intercalate (r.clauses.map Clause.text)

end Rule

/-- What messages show for a group. -/
def groupToken (group : String) : String :=
  if group = "" then coreGroupToken else group

theorem bracket_eq (values : List String) :
    bracket values = "[" ++ " ".intercalate (values.map groupToken) ++ "]" := rfl

theorem groupToken_ne_empty (group : String) : groupToken group ≠ "" := by
  unfold groupToken
  split
  · decide
  · assumption

end RoleGuard

import Mathlib.Data.List.TakeWhile
import RoleGuard.Files.Glob
import RoleGuard.Text.Pieces

/-! # What Name Patterns Match

    A pattern is read into pieces, and the pieces are tried on a name. The
    relation here says which names match without either step: it goes
    through the characters of the pattern, and a star takes any part of the
    name. Brackets are the delicate case. They form a class only with a
    partner, a bracket in first place is a member of the class, and a
    bracket without a partner is a character like any other. Inside, a hyphen
    makes a range of its neighbours; a range that runs backwards is gone, and
    what stands behind it may come first in the class then.
-/

namespace RoleGuard.Glob

variable {c d : Char} {cs name inside rest pattern : List Char} {ps : List Piece} {n : Nat}

/-! ## Classes -/

/-- The text can stand between the brackets of a class: it has no closing bracket but perhaps in
    first place, or behind an exclamation mark there. -/
inductive IsClass : List Char → Prop where
  /-- the class lists its characters -/
  | listed {first : Char} {rest : List Char} (hfirst : first ≠ '!') (hrest : ']' ∉ rest) :
      IsClass (first :: rest)
  /-- the class lists all other characters -/
  | negated {first : Char} {rest : List Char} (hrest : ']' ∉ rest) :
      IsClass ('!' :: first :: rest)

/-- A class begins here. -/
def BeginsClass (cs : List Char) : Prop :=
  ∃ inside rest, IsClass inside ∧ cs = inside ++ ']' :: rest

/-- A class lists the character, by itself or in a range. -/
def Lists (c : Char) : List Char → Prop
  | a :: '-' :: b :: rest => (a ≤ c ∧ c ≤ b) ∨ Lists c rest
  | a :: rest => c = a ∨ Lists c rest
  | [] => False

/-- The character belongs to a class that does not begin with an exclamation mark. Ranges that run
    backwards may stand first; an exclamation mark behind them is the first character after all,
    and a hyphen behind it then stands for itself. -/
def ListsBehind (c : Char) : List Char → Prop
  | a :: '-' :: b :: rest =>
    if b < a then ListsBehind c rest
    else if a = '!' then ¬ (c = '-' ∨ c = b ∨ Lists c rest)
    else (a ≤ c ∧ c ≤ b) ∨ Lists c rest
  | '!' :: rest => ¬ Lists c rest
  | cs => Lists c cs

/-- The character belongs to the class with the given text between its brackets. -/
def ClassHas (c : Char) : List Char → Prop
  | '!' :: rest => ¬ Lists c rest
  | inside => ListsBehind c inside

/-! ## Reading classes -/

/-- The character has a meaning of its own in a pattern. -/
def Special (c : Char) : Prop :=
  c = '*' ∨ c = '?' ∨ c = '['

/-- The characters of a pattern match those of a name. -/
inductive Matches : List Char → List Char → Prop where
  /-- nothing matches nothing -/
  | nil : Matches [] []
  /-- a star takes any part of the name -/
  | star {rest name : List Char} (taken : List Char) (h : Matches rest name) :
      Matches ('*' :: rest) (taken ++ name)
  /-- a question mark takes one character -/
  | any {rest name : List Char} (c : Char) (h : Matches rest name) :
      Matches ('?' :: rest) (c :: name)
  /-- a class takes one of its characters -/
  | one {inside rest name : List Char} {c : Char} (hclass : IsClass inside)
      (hc : ClassHas c inside) (h : Matches rest name) :
      Matches ('[' :: (inside ++ ']' :: rest)) (c :: name)
  /-- a bracket without a partner stands for itself -/
  | bracket {rest name : List Char} (hopen : ¬ BeginsClass rest) (h : Matches rest name) :
      Matches ('[' :: rest) ('[' :: name)
  /-- any other character stands for itself -/
  | itself {c : Char} {rest name : List Char} (hc : ¬ Special c) (h : Matches rest name) :
      Matches (c :: rest) (c :: name)

end RoleGuard.Glob

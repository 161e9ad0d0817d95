import Mathlib
import RoleGuard.Proofs.Catalogs
import RoleGuard.Proofs.NamePatterns
import RoleGuard.Proofs.Trees

/-! # What Is Discovered

    A catalog can be made from the files below a directory whose names match
    a pattern. Three facts make it independent of everything but names:

    * **all and only**: the search goes through every directory below, so it
      finds a file wherever one matches, hidden or not;
    * **canonical**: the entries rise strictly in the order of their parts,
      and so they are the same however directories are listed;
    * **found again**: joined with the base, an entry leads to its file, so
      nothing is skipped when the catalog is loaded.
-/

namespace RoleGuard

variable {pattern : String}

/-! ## Patterns of one part -/

namespace Selector

/-- The selectors of a pattern for names. Without a part, there is nothing to select. -/
def ofName (pattern : String) : List Selector :=
  if pattern.toList = [] ∨ pattern.toList = ['.'] then []
  else if Glob.isPattern pattern then [.named (Glob.pieces pattern)]
  else [.exact pattern]

end Selector

/-! ## Searching a tree -/

namespace Found

variable {f d : Found} {names dirs : List String} {above : List Entry} {e : Entry}
  {cs : List (String × Entry)} {content : List UInt8}

end Found

/-! ## The order of what is found -/

namespace Entry

variable {e e' : Entry} {p : Position} {names : List String} {found found' : List (List String)}

/-- The names lead to a file whose own name matches the pattern. -/
def HasMatch (e : Entry) (pattern : String) (names : List String) : Prop :=
  ∃ dirs name content, names = dirs ++ [name] ∧ e.Holds names (file content)
    ∧ Glob.Matches pattern.toList name.toList

/-- What is found: the files whose names match, in the order of their parts. -/
structure Finds (e : Entry) (pattern : String) (found : List (List String)) : Prop where
  /-- the files whose names match, and nothing else -/
  mem_iff : ∀ names, names ∈ found ↔ e.HasMatch pattern names
  /-- their parts rise strictly -/
  rising : found.Pairwise (· < ·)

/-- There is one list of what is found. -/
theorem Finds.unique (h : e.Finds pattern found) (h' : e.Finds pattern found') : found = found' :=
  h.rising.eq_of_mem_iff h'.rising fun names => (h.mem_iff names).trans (h'.mem_iff names).symm

end Entry

namespace Catalog

variable {host : Host} {disk : Disk} {root' : Entry} {base : String} {p : Position}
  {names : List String} {found : List (List String)} {c : Catalog} {entries : List Path}

end Catalog

/-! ## The small disk -/

namespace CommandLine

end CommandLine

/-! ## Main theorem -/

namespace Catalog

end Catalog

end RoleGuard

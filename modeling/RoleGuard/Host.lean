import RoleGuard.Files.Store
import RoleGuard.Value.Shown
import RoleGuard.Yaml.Document

/-! # Hosts

    What the program leaves to others while it loads manifests: the files,
    the reader that makes values out of a text, and how much of a value can
    be shown in a message. Loading is the same whoever they are.
-/

namespace RoleGuard

/-- What a program that loads manifests works with. -/
structure Host where
  /-- the files that it reads -/
  files : Files
  /-- the values of the documents of a text -/
  documents : String → Except Yaml.Failure (List Value)
  /-- how much of a value can be shown -/
  limits : Value.Limits := {}

/-- The host with these files on which texts are read as YAML. -/
def Files.host (files : Files) : Host :=
  { files, documents := Yaml.documents }

end RoleGuard

import RoleGuard.Files.Search
import RoleGuard.Manifest

/-! # Catalogs

    A catalog lists role manifests by their paths from a base directory, in
    order. Entries that are no files are skipped with a note, since not
    every release holds every role; an entry that is a file must hold a role.
    An entry that cannot be looked up ends the loading.
-/

namespace RoleGuard

/-- A list of manifests. -/
structure Catalog where
  /-- the directory that paths start from -/
  base : Path
  /-- the paths, in order -/
  entries : List Path
deriving DecidableEq, Repr, Inhabited

namespace Catalog

/-- The manifests of the roles that the operator creates. -/
def usualEntries : List String :=
  ["cert-manager-deployment/controller/cert-manager-tokenrequest-role.yaml",
   "cert-manager-deployment/controller/cert-manager-leaderelection-role.yaml",
   "cert-manager-deployment/webhook/cert-manager-webhook-dynamic-serving-role.yaml",
   "cert-manager-deployment/cainjector/cert-manager-cainjector-leaderelection-role.yaml",
   "istio-csr/cert-manager-istio-csr-role.yaml",
   "istio-csr/cert-manager-istio-csr-leases-role.yaml"]

/-- A catalog of written paths. -/
def ofTexts (base : String) (entries : List String) : Catalog :=
  ⟨Path.ofText base, entries.map Path.ofText⟩

/-- The catalog of the roles that the operator creates. -/
def usual (base : String) : Catalog :=
  ofTexts base usualEntries

/-- The pattern of role manifests. -/
def usualPattern : String := "*-role.yaml"

/-- The catalog of the files below a directory that match a pattern. -/
def discover (disk : Disk) (base pattern : String) : Except Defect Catalog :=
  (disk.search (Path.ofText base) pattern).map fun found =>
    ⟨Path.ofText base, found.map fun names => ⟨.relative, names⟩⟩

/-- The path of an entry. -/
def locate (c : Catalog) (entry : Path) : Path :=
  c.base.from_ entry

/-- The note about an entry that is no file. -/
def skipNote (entry : Path) : Log.Record :=
  ⟨Log.sourcesName, Log.LevelName.info.value, "Skipping " ++ entry.text ++ ": file not found"⟩

/-- The note and the request that an entry adds: a request if it is a file, and a note if not. -/
def contribution (host : Host) (c : Catalog) (entry : Path) :
    Except Refusal (List Log.Record × List Request) :=
  match host.files.has (c.locate entry) with
  | .error f => .error (.defect (.unreachable f (c.locate entry)))
  | .ok false => .ok ([skipNote entry], [])
  -- only what is no file is skipped; a file that fails ends the loading
  | .ok true => (Manifest.request host (c.locate entry).text).map fun q => ([], [q])

/-- The requests in a catalog, in the order of its entries. -/
def requests (host : Host) (c : Catalog) : Logged (Except Refusal (List Request)) :=
  Logged.collect (contribution host c) c.entries

end Catalog

end RoleGuard

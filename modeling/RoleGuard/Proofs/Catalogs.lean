import RoleGuard.Proofs.Arguments
import RoleGuard.Proofs.Running

/-! # Catalogs

    A catalog may list more manifests than there are. What becomes of an
    entry depends on what stands at its path:

    * **no file**: the entry is passed over with a note;
    * **a role**: the entry becomes a request, in its place;
    * **anything else**: the loading ends there, and what was loaded before
      is lost. So it does where the path cannot be looked up.

    So only the entries that are files count, and loading them is loading
    manifests that are given one by one. A validation of the usual catalog
    therefore shows the same as one of the roles that it found.
-/

namespace RoleGuard

namespace Catalog

variable {host : Host} {c : Catalog} {entry : Path} {entries : List Path}
  {notes : List Log.Record} {qs : List Request} {r : Refusal}

/-! ## Entries -/

/-- The entry is a file. -/
def present (host : Host) (c : Catalog) (entry : Path) : Bool :=
  decide (host.files.has (c.locate entry) = .ok true)

/-- The entry is no file. -/
def absent (host : Host) (c : Catalog) (entry : Path) : Bool :=
  decide (host.files.has (c.locate entry) = .ok false)

/-- All entries can be looked up. -/
def Reaches (host : Host) (c : Catalog) : Prop :=
  ∀ entry ∈ c.entries, ∃ file, host.files.has (c.locate entry) = .ok file

/-- The note that an entry is no file. -/
def noteOn (entry : Path) : Log.Record :=
  ⟨"grantcheck.sources", 20, "Skipping " ++ entry.text ++ ": file not found"⟩

/-- The notes about the entries that are no files, in order. -/
def notesOn (host : Host) (c : Catalog) (entries : List Path) : List Log.Record :=
  (entries.filter (c.absent host)).map noteOn

/-- The requests are those in the entries that are files, one for each and in their order. -/
def Gives (host : Host) (c : Catalog) (entries : List Path) (qs : List Request) : Prop :=
  List.Forall₂ (fun entry q => Manifest.request host (c.locate entry).text = .ok q)
    (entries.filter (c.present host)) qs

/-- The loading ends with the first entry that does not fit, and the notes are those made
    before. -/
def Stops (host : Host) (c : Catalog) (entries : List Path) (notes : List Log.Record)
    (r : Refusal) : Prop :=
  ∃ before entry after, entries = before ++ entry :: after
    ∧ (∀ e ∈ before, c.Fits host e) ∧ c.Refuses host entry r ∧ notes = c.notesOn host before

theorem skipNote_eq (entry : Path) : skipNote entry = noteOn entry := by
  rfl

theorem present_of_has {file : Bool} (h : host.files.has (c.locate entry) = .ok file) :
    c.present host entry = file ∧ c.absent host entry = !file := by
  unfold present absent
  rw [h]
  cases file <;> decide

theorem exists_gives (h : ∀ entry ∈ entries, c.Fits host entry) :
    ∃ qs, c.Gives host entries qs := by
  refine exists_forall₂_iff.mpr fun entry hentry => ?_
  obtain ⟨hmem, hpresent⟩ := List.mem_filter.mp hentry
  have hfile : host.files.has (c.locate entry) = .ok true := of_decide_eq_true hpresent
  cases h entry hmem with
  | absent habsent => cases habsent.symm.trans hfile
  | present _ hq => exact ⟨_, hq⟩

/-- What does not fit is refused. -/
theorem exists_refuses (h : ¬ c.Fits host entry) : ∃ r, c.Refuses host entry r := by
  cases hp : contribution host c entry with
  | ok p => exact absurd (exists_contribution_iff.mp ⟨p, hp⟩) h
  | error r => exact ⟨r, contribution_eq_error.mp hp⟩

/-! ## All entries -/

/-- Each entry that fits leaves its note or its request. -/
theorem exists_contributions (hfits : ∀ entry ∈ entries, c.Fits host entry)
    (hqs : c.Gives host entries qs) :
    ∃ parts, List.Forall₂ (fun entry p => contribution host c entry = .ok p) entries parts
      ∧ parts.flatMap Prod.fst = c.notesOn host entries ∧ parts.flatMap Prod.snd = qs := by
  unfold Gives notesOn at *
  induction entries generalizing qs with
  | nil =>
    cases hqs
    exact ⟨[], .nil, rfl, rfl⟩
  | cons entry entries ih =>
    obtain ⟨hentry, hentries⟩ := List.forall_mem_cons.mp hfits
    cases hentry with
    | absent hfile =>
      obtain ⟨hpresent, habsent⟩ := present_of_has hfile
      rw [List.filter_cons_of_neg (by simp [hpresent])] at hqs
      obtain ⟨parts, hparts, hnotes, hitems⟩ := ih hentries hqs
      refine ⟨_, .cons (contribution_of_absent hfile) hparts, ?_, ?_⟩
      · rw [List.filter_cons_of_pos habsent, List.map_cons, ← hnotes, skipNote_eq]
        rfl
      · rw [List.flatMap_cons, hitems]
        rfl
    | present hfile hq =>
      obtain ⟨hpresent, habsent⟩ := present_of_has hfile
      rw [List.filter_cons_of_pos hpresent] at hqs
      obtain ⟨q, qs', hq', hqs', rfl⟩ := List.forall₂_cons_left_iff.mp hqs
      obtain ⟨parts, hparts, hnotes, hitems⟩ := ih hentries hqs'
      have hcontribution := (contribution_of_present hfile).trans (map_eq_ok.mpr ⟨q, hq', rfl⟩)
      refine ⟨_, .cons hcontribution hparts, ?_, ?_⟩
      · rw [List.filter_cons_of_neg (by simp [habsent]), ← hnotes]
        rfl
      · rw [List.flatMap_cons, hitems]
        rfl

/-- **A catalog whose entries fit is loaded with all of its files.** -/
theorem requests_of_gives (hfits : ∀ entry ∈ c.entries, c.Fits host entry)
    (hqs : c.Gives host c.entries qs) :
    c.requests host = (c.notesOn host c.entries, .ok qs) := by
  obtain ⟨parts, hparts, hnotes, hitems⟩ := exists_contributions hfits hqs
  unfold requests
  rw [Logged.collect_of_ok hparts, hnotes, hitems]

/-- **A catalog is refused for the first of its entries that is.** -/
theorem requests_of_stops (h : c.Stops host c.entries notes r) :
    c.requests host = (notes, .error r) := by
  obtain ⟨before, entry, after, hsplit, hbefore, hr, rfl⟩ := h
  obtain ⟨qs, hqs⟩ := exists_gives hbefore
  obtain ⟨parts, hparts, hnotes, _⟩ := exists_contributions hbefore hqs
  unfold requests
  rw [hsplit, Logged.collect_of_error hparts (contribution_eq_error.mpr hr), hnotes]

theorem exists_stops (h : ¬ ∀ entry ∈ entries, c.Fits host entry) :
    ∃ notes r, c.Stops host entries notes r := by
  obtain ⟨before, entry, after, hsplit, hbefore, hentry⟩ := exists_first_not h
  obtain ⟨r, hr⟩ := exists_refuses hentry
  exact ⟨_, r, before, entry, after, hsplit, hbefore, hr, rfl⟩

/-! ## Entries that come and go -/

/-- Only the entries that are not absent count. -/
theorem requests_snd_congr {base : Path} {entries' : List Path}
    (h : (entries.filter fun entry => decide (host.files.has (base.from_ entry) ≠ .ok false))
      = entries'.filter fun entry => decide (host.files.has (base.from_ entry) ≠ .ok false)) :
    (requests host ⟨base, entries⟩).2 = (requests host ⟨base, entries'⟩).2 := by
  have hnotes : ∀ entry, decide (host.files.has (base.from_ entry) ≠ .ok false) = false →
      ∃ notes, contribution host ⟨base, []⟩ entry = .ok (notes, []) := by
    intro entry habsent
    have hfile : host.files.has (base.from_ entry) = .ok false := by
      simpa using habsent
    exact ⟨_, contribution_of_absent (c := ⟨base, []⟩) hfile⟩
  -- the contribution of an entry depends on the base alone
  show (Logged.collect (contribution host ⟨base, []⟩) entries).2
    = (Logged.collect (contribution host ⟨base, []⟩) entries').2
  rw [← Logged.collect_filter_snd hnotes, h, Logged.collect_filter_snd hnotes]

/-! ## Paths given one by one -/

/-- The paths of the entries that are files, as they could be given one by one. -/
def paths (host : Host) (c : Catalog) : List String :=
  (c.entries.filter (c.present host)).map fun entry => (c.locate entry).text

/-- Where every entry can be looked up, loading the catalog is loading what it found. -/
theorem mapM_paths (h : c.Reaches host) :
    (c.paths host).mapM (Manifest.request host) = (c.requests host).2 := by
  have hnotes : ∀ entry, c.absent host entry = true →
      ∃ notes, contribution host c entry = .ok (notes, []) := by
    intro entry habsent
    exact ⟨_, contribution_of_absent (of_decide_eq_true habsent)⟩
  have hpresent : c.entries.filter (c.present host)
      = c.entries.filter fun entry => !c.absent host entry := by
    refine List.filter_congr fun entry hentry => ?_
    obtain ⟨file, hfile⟩ := h entry hentry
    obtain ⟨hp, ha⟩ := present_of_has hfile
    rw [hp, ha, Bool.not_not]
  unfold paths requests
  rw [List.mapM_map, hpresent, ← Logged.collect_filter_snd (p := fun entry => !c.absent host entry)
    (by simpa using hnotes)]
  symm
  refine Logged.collect_singles_snd fun entry hentry => ?_
  rw [← hpresent] at hentry
  exact contribution_of_present (of_decide_eq_true (List.mem_filter.mp hentry).2)

end Catalog

namespace CommandLine

variable {env : Environment} {host : Host} {a : Arguments} {s : Settings} {g : Grantor}
  {time : String} {format : Format}

/-- Without a role, the usual catalog is looked at. -/
theorem requestsOf_nil (host : Host) (s : Settings) :
    requestsOf host s [] = (Catalog.usual s.manifestDir).requests host := by
  rfl

/-- Roles that are given by the paths of the usual catalog are those of the catalog, also where it
    has none: then no role is given, and the catalog is looked at. -/
theorem requestsOf_paths (h : (Catalog.usual s.manifestDir).Reaches host) :
    (requestsOf host s ((Catalog.usual s.manifestDir).paths host)).2
      = (requestsOf host s []).2 := by
  unfold requestsOf
  by_cases hnone : ((Catalog.usual s.manifestDir).paths host).isEmpty = true
  · rw [if_pos hnone]
    rfl
  · rw [if_neg hnone]
    exact Catalog.mapM_paths h

/-- **The usual catalog is checked like the roles that it found.** -/
theorem validate_paths_snd (h : (Catalog.usual s.manifestDir).Reaches host) (format : Format) :
    (validate host s ((Catalog.usual s.manifestDir).paths host) format).2
      = (validate host s [] format).2 := by
  unfold validate
  simp only [Logged.andThen_snd, requestsOf_paths h]

theorem validate_snd_of_ok {roles : List String} {qs : List Request}
    (hg : (operator host s).2 = .ok g) (hqs : (requestsOf host s roles).2 = .ok qs) :
    (validate host s roles format).2
      = .ok (if (g.report qs).ok then .done else .uncovered,
          printedReport format (g.report qs)) := by
  unfold validate
  simp only [Logged.andThen_snd]
  rw [hg, bind_eq_ok]
  exact ⟨g, rfl, bind_eq_ok.mpr ⟨qs, hqs, rfl⟩⟩

/-! ## Runs -/

/-- What a run shows apart from its messages. -/
def Output.shown (o : Output) : Exit × String :=
  (o.exit, o.stdout)

/-- What is shown of what a command ends in. -/
def shownOf : Except Refusal (Exit × String) → Except Escape (Exit × String)
  | .error (.defect d) => .error (.defect d)
  | .error (.reported _) => .ok (.unloaded, "")
  | .ok result => .ok result

theorem shown_runWith (time : String) (hs : (Settings.resolve env a.overrides).2 = .ok s) :
    (runWith env host time a).map Output.shown = shownOf (perform host s a.command).2 := by
  obtain ⟨setup, messages, hrun⟩ := runWith_of_settings time host hs
  rw [hrun]
  cases (perform host s a.command).2 with
  | error r => cases r <;> rfl
  | ok result => rfl

/-- A run over the usual catalog shows the same as a run over the roles that the catalog found. -/
theorem shown_of_paths {arguments arguments' : List String} (time time' : String)
    (hread : read arguments = .ok (a.asking (.validate [] format)))
    (hs : (Settings.resolve env a.overrides).2 = .ok s)
    (hreaches : (Catalog.usual s.manifestDir).Reaches host)
    (hread' : read arguments' = .ok
      (a.asking (.validate ((Catalog.usual s.manifestDir).paths host) format))) :
    (run env host time arguments).map Output.shown
      = (run env host time' arguments').map Output.shown := by
  have hcatalog : (perform host s (.validate [] format)).2
      = (perform host s (.validate ((Catalog.usual s.manifestDir).paths host) format)).2 :=
    (validate_paths_snd hreaches format).symm
  rw [run_of_read hread, run_of_read hread',
    shown_runWith time (a := a.asking (.validate [] format)) hs,
    shown_runWith time' (a := a.asking (.validate _ format)) hs]
  exact congrArg shownOf hcatalog

/-! ## The arguments of such runs -/

/-- The options that name roles. -/
def roleGivens (roles : List String) : List Given :=
  roles.map fun role => ⟨.joined, rolesOption, role⟩

/-- The directory of manifests in a run with some options. -/
def directoryOf (env : Environment) (givens : List Given) : String :=
  ((filledBy givens).last? manifestDirOption.name).getD
    ((env "GRANTCHECK_MANIFEST_DIR").getD "bindata")

section Arguments

variable {givens : List Given} {roles : List String}

theorem all_append_roleGivens (givens : List Given) (roles : List String) (name : String) :
    (filledBy (givens ++ roleGivens roles)).all name
      = (filledBy givens).all name ++ if rolesOption.name == name then roles else [] := by
  rw [all_filledBy, all_filledBy, List.filter_append, List.map_append]
  unfold roleGivens
  cases hname : rolesOption.name == name <;> simp [List.filter_map, hname, Function.comp_def]

/-- Roles that are named leave the other options as they are. -/
theorem last?_append_roleGivens (givens : List Given) (roles : List String) {name : String}
    (hname : (rolesOption.name == name) = false) :
    (filledBy (givens ++ roleGivens roles)).last? name = (filledBy givens).last? name := by
  unfold Filled.last?
  rw [all_append_roleGivens, hname]
  simp

/-- Without an option for a role, no role is named. -/
theorem all_roles_eq_nil (h : ∀ g ∈ givens, g.option.name ≠ rolesOption.name) :
    (filledBy givens).all rolesOption.name = [] := by
  rw [all_filledBy, List.map_eq_nil_iff, List.filter_eq_nil_iff]
  simpa using h

theorem accepts_roleGivens (haccepts : ∀ g ∈ givens, validateForm.Accepts g)
    (roles : List String) : ∀ g ∈ givens ++ roleGivens roles, validateForm.Accepts g := by
  intro g hg
  rcases List.mem_append.mp hg with hgiven | hrole
  · exact haccepts g hgiven
  · obtain ⟨role, _, rfl⟩ := List.mem_map.mp hrole
    exact ⟨(by decide : rolesOption ∈ validateForm.options), trivial, Or.inl rfl⟩

/-- Naming roles behind other options changes nothing but the roles. -/
theorem read_append_roleGivens (haccepts : ∀ g ∈ givens, validateForm.Accepts g)
    (h : ∀ g ∈ givens, g.option.name ≠ rolesOption.name) (roles : List String) :
    read ("validate" :: (givens ++ roleGivens roles).flatMap Given.arguments) = .ok {
      logLevel := none
      operatorRole := (filledBy givens).last? operatorRoleOption.name
      manifestDir := (filledBy givens).last? manifestDirOption.name
      command := .validate roles (formatOf (filledBy givens)) } := by
  have hformat : formatOf (filledBy (givens ++ roleGivens roles)) = formatOf (filledBy givens) := by
    unfold formatOf
    rw [last?_append_roleGivens givens roles (by decide)]
  rw [read_givens rfl (accepts_roleGivens haccepts roles) rfl]
  rw [last?_append_roleGivens givens roles (by decide),
    last?_append_roleGivens givens roles (by decide), hformat, all_append_roleGivens,
    all_roles_eq_nil h]
  rfl

end Arguments

/-! ## Main theorem -/

/-- **A catalog loads what is there.** When every entry can be looked up and
    holds a request if it is a file, the catalog gives these requests in
    their order, and a note for each other entry; otherwise it is refused
    like the first entry that cannot be looked up or is refused. So entries
    that are no files can come and go. Where all its entries can be looked
    up, a validation of the usual catalog ends in the same as one of the
    roles that the catalog found, given by their paths in the same order;
    this is stated for the command, for all arguments that ask for the two
    runs, and for those that write options in full. -/
theorem catalogs_load_what_is_there (host : Host) :
    (∀ c : Catalog,
      ((∀ entry ∈ c.entries, c.Fits host entry) → ∃ qs,
        c.requests host = (c.notesOn host c.entries, .ok qs) ∧ c.Gives host c.entries qs)
      ∧ (¬ (∀ entry ∈ c.entries, c.Fits host entry) → ∃ notes r,
        c.requests host = (notes, .error r) ∧ c.Stops host c.entries notes r))
    ∧ (∀ base entries entries',
      (entries.filter fun entry => decide (host.files.has (base.from_ entry) ≠ .ok false))
        = (entries'.filter fun entry => decide (host.files.has (base.from_ entry) ≠ .ok false)) →
      (Catalog.requests host ⟨base, entries⟩).2 = (Catalog.requests host ⟨base, entries'⟩).2)
    ∧ (∀ s format,
      let c := Catalog.usual s.manifestDir
      (c.Reaches host → (validate host s (c.paths host) format).2 = (validate host s [] format).2)
      ∧ ∀ g, (operator host s).2 = .ok g → (∀ entry ∈ c.entries, c.Fits host entry) →
        ∃ qs, c.Gives host c.entries qs ∧ (validate host s [] format).2
          = .ok (if (g.report qs).ok then .done else .uncovered,
              printedReport format (g.report qs)))
    ∧ (∀ env time time' arguments arguments' (a : Arguments) s format,
      read arguments = .ok (a.asking (.validate [] format)) →
      (Settings.resolve env a.overrides).2 = .ok s →
      (Catalog.usual s.manifestDir).Reaches host →
      read arguments' = .ok
        (a.asking (.validate ((Catalog.usual s.manifestDir).paths host) format)) →
      (run env host time arguments).map Output.shown
        = (run env host time' arguments').map Output.shown)
    ∧ ∀ env time time' givens, (∀ g ∈ givens, validateForm.Accepts g) →
      (∀ g ∈ givens, g.option.name ≠ rolesOption.name) →
      (Catalog.usual (directoryOf env givens)).Reaches host →
      let roles := (Catalog.usual (directoryOf env givens)).paths host
      (run env host time ("validate" :: givens.flatMap Given.arguments)).map Output.shown
        = (run env host time'
            ("validate" :: (givens ++ roleGivens roles).flatMap Given.arguments)).map
              Output.shown := by
  refine ⟨?_, ?_, ?_, ?_, ?_⟩
  · intro c
    constructor
    · intro hfits
      obtain ⟨qs, hqs⟩ := Catalog.exists_gives hfits
      exact ⟨qs, Catalog.requests_of_gives hfits hqs, hqs⟩
    · intro hmisfit
      obtain ⟨notes, r, hstops⟩ := Catalog.exists_stops hmisfit
      exact ⟨notes, r, Catalog.requests_of_stops hstops, hstops⟩
  · intro base entries entries' hpresent
    exact Catalog.requests_snd_congr hpresent
  · intro s format c
    refine ⟨fun hreaches => validate_paths_snd hreaches format, ?_⟩
    intro g hg hfits
    obtain ⟨qs, hqs⟩ := Catalog.exists_gives hfits
    have hroles : (requestsOf host s []).2 = .ok qs := by
      rw [requestsOf_nil, Catalog.requests_of_gives hfits hqs]
    exact ⟨qs, hqs, validate_snd_of_ok hg hroles⟩
  · intro env time time' arguments arguments' a s format hread hs hreaches hread'
    exact shown_of_paths time time' hread hs hreaches hread'
  · intro env time time' givens haccepts hnames hreaches roles
    let format := formatOf (filledBy givens)
    let a : Arguments := {
      logLevel := none
      operatorRole := (filledBy givens).last? operatorRoleOption.name
      manifestDir := (filledBy givens).last? manifestDirOption.name
      command := .validate [] format }
    let s := settingsAt env a (Settings.environmentLevel env).2
    have hread : read ("validate" :: givens.flatMap Given.arguments)
        = .ok (a.asking (.validate [] format)) := by
      have hnone := read_append_roleGivens haccepts hnames []
      rwa [show roleGivens [] = [] from rfl, List.append_nil] at hnone
    have hs : (Settings.resolve env a.overrides).2 = .ok s := resolve_of_no_level env rfl
    have hread' : read ("validate" :: (givens ++ roleGivens roles).flatMap Given.arguments)
        = .ok (a.asking (.validate ((Catalog.usual s.manifestDir).paths host) format)) :=
      read_append_roleGivens haccepts hnames roles
    exact shown_of_paths time time' hread hs hreaches hread'

/-! ## A small tree -/

/-- A disk with an operator, with a file that is empty, with one role of the usual catalog, and
    with a role that is hidden. -/
def smallDisk : Disk where
  root := .directory [
    ("operator.yaml", .file Manifest.operatorContent),
    ("empty.yaml", .file []),
    ("bindata", .directory [
      ("z-role.yaml", .directory [(".b-role.yaml", .file Manifest.roleContent)]),
      ("istio-csr", .directory [
        ("cert-manager-istio-csr-role.yaml", .file Manifest.roleContent)])])]

/-- The host of its files. -/
def smallHost : Host :=
  smallDisk.files.host

/-- The only entry of the usual catalog that is a file there. -/
def soleEntry : Path :=
  ⟨.relative, ["istio-csr", "cert-manager-istio-csr-role.yaml"]⟩

/-- The usual entries by their parts, so that what follows need not read them. -/
theorem usual_entries : (Catalog.usual "bindata").entries = [
    ⟨.relative, ["cert-manager-deployment", "controller", "cert-manager-tokenrequest-role.yaml"]⟩,
    ⟨.relative, ["cert-manager-deployment", "controller",
      "cert-manager-leaderelection-role.yaml"]⟩,
    ⟨.relative, ["cert-manager-deployment", "webhook",
      "cert-manager-webhook-dynamic-serving-role.yaml"]⟩,
    ⟨.relative, ["cert-manager-deployment", "cainjector",
      "cert-manager-cainjector-leaderelection-role.yaml"]⟩,
    soleEntry,
    ⟨.relative, ["istio-csr", "cert-manager-istio-csr-leases-role.yaml"]⟩] := by
  decide +kernel

theorem has_smallHost : ∀ entry ∈ (Catalog.usual "bindata").entries,
    smallHost.files.has ((Catalog.usual "bindata").locate entry)
      = .ok (decide (entry = soleEntry)) := by
  rw [usual_entries]
  decide +kernel

theorem filter_soleEntry :
    (Catalog.usual "bindata").entries.filter (fun entry => decide (entry = soleEntry))
      = [soleEntry] := by
  rw [usual_entries]
  decide

theorem present_smallHost :
    (Catalog.usual "bindata").entries.filter ((Catalog.usual "bindata").present smallHost)
      = [soleEntry] := by
  rw [← filter_soleEntry]
  exact List.filter_congr fun entry hentry =>
    (Catalog.present_of_has (has_smallHost entry hentry)).1

theorem reaches_smallHost : (Catalog.usual "bindata").Reaches smallHost :=
  fun entry hentry => ⟨_, has_smallHost entry hentry⟩

theorem paths_smallHost : (Catalog.usual "bindata").paths smallHost
    = ["bindata/istio-csr/cert-manager-istio-csr-role.yaml"] := by
  unfold Catalog.paths
  rw [present_smallHost]
  decide

theorem request_smallHost :
    Manifest.request smallHost "bindata/istio-csr/cert-manager-istio-csr-role.yaml"
      = .ok ⟨"", none, "Role", [⟨[], [], ["get"], []⟩]⟩ :=
  Manifest.request_of_roleContent (by decide) rfl

theorem granted_smallHost : (Manifest.granted smallHost "operator.yaml").2 = .ok [] :=
  Manifest.granted_of_operatorContent (by decide) rfl

theorem gives_smallHost : (Catalog.usual "bindata").Gives smallHost
    (Catalog.usual "bindata").entries [⟨"", none, "Role", [⟨[], [], ["get"], []⟩]⟩] := by
  have htext : ((Catalog.usual "bindata").locate soleEntry).text
      = "bindata/istio-csr/cert-manager-istio-csr-role.yaml" := by decide
  unfold Catalog.Gives
  rw [present_smallHost, List.forall₂_cons, htext]
  exact ⟨request_smallHost, .nil⟩

theorem fits_smallHost : ∀ entry ∈ (Catalog.usual "bindata").entries,
    (Catalog.usual "bindata").Fits smallHost entry := by
  intro entry hentry
  obtain ⟨file, hfile⟩ := reaches_smallHost entry hentry
  cases file with
  | false => exact .absent hfile
  | true =>
    have hmem : entry ∈ (Catalog.usual "bindata").entries.filter
        ((Catalog.usual "bindata").present smallHost) :=
      List.mem_filter.mpr ⟨hentry, decide_eq_true hfile⟩
    obtain ⟨q, hq⟩ := exists_forall₂_iff.mp ⟨_, gives_smallHost⟩ entry hmem
    exact .present hfile hq

/-- A file without a document holds no role. -/
theorem misfit_smallHost : ¬ (⟨Path.ofText "", [Path.ofText "gone.yaml", Path.ofText "empty.yaml"]⟩
    : Catalog).Fits smallHost (Path.ofText "empty.yaml") := by
  intro hfits
  cases hfits with
  | absent hfile => cases hfile
  | present _ hq => cases hq

/-- The theorem at the usual catalog of the small disk, whose other entries are no files; at a
    catalog with an empty file; and at runs over the usual catalog and over its role. -/
theorem catalogs_load_what_is_there_at_small_tree :
    let c := Catalog.usual "bindata"
    let broken : Catalog := ⟨Path.ofText "", [Path.ofText "gone.yaml", Path.ofText "empty.yaml"]⟩
    let q : Request := ⟨"", none, "Role", [⟨[], [], ["get"], []⟩]⟩
    let s : Settings := { operatorRole := "operator.yaml" }
    (∀ entry ∈ c.entries, c.Fits smallHost entry) ∧ c.Reaches smallHost
      ∧ c.requests smallHost = (c.notesOn smallHost c.entries, .ok [q])
      ∧ (Catalog.requests smallHost ⟨Path.ofText "bindata", [soleEntry]⟩).2 = .ok [q]
      ∧ ¬ (∀ entry ∈ broken.entries, broken.Fits smallHost entry)
      ∧ (∃ notes r, broken.requests smallHost = (notes, .error r))
      ∧ (operator smallHost s).2 = .ok ⟨[], defaultMarker⟩
      ∧ (∃ text, (validate smallHost s [] .text).2 = .ok (.uncovered, text))
      ∧ (run (fun _ => none) smallHost "now"
          ["validate", "--operator-role", "operator.yaml"]).map Output.shown
        = (run (fun _ => none) smallHost "later" ["validate", "--operator-role",
            "operator.yaml", "--role=bindata/istio-csr/cert-manager-istio-csr-role.yaml"]).map
              Output.shown := by
  intro c broken q s
  obtain ⟨hcatalog, hpresent, hvalidate, -, hruns⟩ := catalogs_load_what_is_there smallHost
  have hmisfit : ¬ ∀ entry ∈ broken.entries, broken.Fits smallHost entry :=
    fun hall => misfit_smallHost (hall _ (by simp [broken]))
  have hoperator : (operator smallHost s).2 = .ok ⟨[], defaultMarker⟩ :=
    operator_eq_ok.mpr ⟨granted_smallHost, rfl⟩
  have hunique : ∀ qs, c.Gives smallHost c.entries qs → qs = [q] := by
    intro qs hqs
    have hsame := (Catalog.requests_of_gives fits_smallHost hqs).symm.trans
      (Catalog.requests_of_gives fits_smallHost gives_smallHost)
    exact Except.ok.inj (congrArg Prod.snd hsame)
  obtain ⟨qs, hqs, hgives⟩ := (hcatalog c).1 fits_smallHost
  obtain rfl := hunique qs hgives
  obtain ⟨notes, r, hr, -⟩ := (hcatalog broken).2 hmisfit
  refine ⟨fits_smallHost, reaches_smallHost, hqs, ?_, hmisfit, ⟨notes, r, hr⟩, hoperator, ?_, ?_⟩
  · have hcounts : ∀ entry ∈ c.entries,
        decide (smallHost.files.has (c.base.from_ entry) ≠ .ok false)
          = decide (entry = soleEntry) := by
      intro entry hentry
      have hfile : smallHost.files.has (c.base.from_ entry) = _ := has_smallHost entry hentry
      rw [hfile]
      by_cases hsole : entry = soleEntry <;> simp [hsole]
    have hsole : soleEntry ∈ c.entries :=
      (List.mem_filter.mp (present_smallHost.symm ▸ List.mem_singleton_self soleEntry)).1
    have hfilter : ([soleEntry].filter fun entry =>
          decide (smallHost.files.has (c.base.from_ entry) ≠ .ok false))
        = c.entries.filter fun entry =>
          decide (smallHost.files.has (c.base.from_ entry) ≠ .ok false) := by
      rw [List.filter_congr hcounts, filter_soleEntry]
      exact List.filter_cons_of_pos ((hcounts soleEntry hsole).trans (decide_eq_true rfl))
    exact (hpresent c.base [soleEntry] c.entries hfilter).trans (congrArg Prod.snd hqs)
  · obtain ⟨qs, hgiven, hresult⟩ := (hvalidate s .text).2 _ hoperator fits_smallHost
    obtain rfl := hunique qs hgiven
    exact ⟨_, hresult⟩
  · have hsame := hruns (fun _ => none) "now" "later"
      [⟨.apart, operatorRoleOption, "operator.yaml"⟩] ?_ (by decide) reaches_smallHost
    · rw [show directoryOf (fun _ => none) [⟨.apart, operatorRoleOption, "operator.yaml"⟩]
        = "bindata" from rfl, paths_smallHost] at hsame
      exact hsame
    · intro g hg
      obtain rfl := List.mem_singleton.mp hg
      exact ⟨by decide, (by decide : IsWord "operator.yaml"), Or.inl rfl⟩

/-! ## A name that is too long -/

/-- A disk with an empty directory. -/
def emptyDisk : Disk where
  root := .directory [("d", .directory [])]

/-- A name of so many letters. -/
def lettersOf (n : Nat) : String :=
  String.ofList (List.replicate n 'a')

theorem utf8ByteSize_lettersOf (n : Nat) : (lettersOf n).utf8ByteSize = n := by
  unfold lettersOf
  induction n with
  | zero => rfl
  | succ n ih =>
    rw [List.replicate_succ, String.ofList_cons, String.utf8ByteSize_append, ih, Nat.add_comm]
    rfl

theorem read_lettersOf {n : Nat} (h : longestName < n) :
    emptyDisk.files.read ⟨.relative, ["d", lettersOf n]⟩ = .error .nameTooLong := by
  have hsize : longestName < (lettersOf n).utf8ByteSize := by rwa [utf8ByteSize_lettersOf]
  have hname : lettersOf n ≠ ".." := by
    intro hpoints
    rw [hpoints] at hsize
    exact absurd hsize (by decide)
  have hresolve : emptyDisk.resolve ⟨.relative, ["d", lettersOf n]⟩ = .error .nameTooLong := by
    show ["d", lettersOf n].foldlM Position.step ⟨emptyDisk.root, []⟩ = _
    simp [emptyDisk, Position.step, hname, hsize, bind, Except.bind]
  show emptyDisk.read _ = _
  unfold Disk.read
  rw [hresolve]
  simp

theorem has_lettersOf {n : Nat} (h : longestName < n) :
    emptyDisk.files.has ⟨.relative, ["d", lettersOf n]⟩ = .error .nameTooLong := by
  have hnull : '\x00' ∉ (Path.text ⟨.relative, ["d", lettersOf n]⟩).toList := by
    simp [Path.text, Path.joinParts, Path.separator, lettersOf]
  unfold Files.has
  rw [if_neg (by simpa using hnull), read_lettersOf h]
  rfl

/-- An entry that is no file is not always passed over: no file can have a name of 300 bytes, and
    looking for one ends the loading. -/
theorem long_name_ends_loading :
    let entry : Path := ⟨.relative, [lettersOf 300]⟩
    let c : Catalog := ⟨Path.ofText "d", [entry]⟩
    (∀ content, emptyDisk.files.host.files.read (c.locate entry) ≠ .ok content)
      ∧ c.requests emptyDisk.files.host
        = ([], .error (.defect (.unreachable .nameTooLong (c.locate entry)))) := by
  intro entry c
  have hlong : longestName < 300 := by decide
  have hread : emptyDisk.files.host.files.read (c.locate entry) = .error .nameTooLong :=
    read_lettersOf hlong
  have hlookup : emptyDisk.files.host.files.has (c.locate entry) = .error .nameTooLong :=
    has_lettersOf hlong
  refine ⟨?_, Catalog.requests_of_stops ⟨[], entry, [], rfl, nofun, .lookup hlookup, rfl⟩⟩
  intro content h
  cases hread.symm.trans h

end CommandLine

end RoleGuard

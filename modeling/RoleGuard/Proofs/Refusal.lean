import RoleGuard.Proofs.Running

/-! # Failures of Loading

    A loader that fails should report an error about the manifest that it
    was given. It does, except where it breaks:

    * **Files**: one that is no UTF-8, or whose values do not exist.
    * **Documents**: a role whose metadata has no fields, or a kind or a
      name that a message cannot show.
    * **Catalogs**: an entry that cannot be looked up.

    Whatever a run may read is listed by `paths`, and what it looks up before
    by `lookups`. So a run comes to an exit code unless one of these breaks,
    and then only the printing of its findings can fail.
-/

namespace RoleGuard

namespace Manifest

variable {host : Host} {p : Path} {origin : String} {d : Defect}

/-! ## Broken files -/

/-- The file breaks whoever loads all of its documents. -/
def Breaks (host : Host) (p : Path) (d : Defect) : Prop :=
  BreaksReading host p d
    ∨ ∃ docs doc, documents host p = .ok docs ∧ doc ∈ docs ∧ BreaksDocument host.limits doc d

theorem breaks_of_request (h : request host origin = .error (.defect d)) :
    Breaks host (Path.ofText origin) d := by
  rcases request_eq_defect.mp h with hread | ⟨doc, rest, hdocs, hrole⟩
  · exact Or.inl hread
  · exact Or.inr ⟨doc :: rest, doc, hdocs, List.mem_cons_self, hrole⟩

theorem breaks_of_granted (h : (granted host origin).2 = .error (.defect d)) :
    Breaks host (Path.ofText origin) d := by
  rcases granted_eq_defect.mp h with hread | ⟨docs, hdocs, hfirst⟩
  · exact Or.inl hread
  · obtain ⟨doc, hdoc, hbreaks⟩ := hfirst.exists_mem
    exact Or.inr ⟨docs, doc, hdocs, hdoc, hbreaks⟩

/-! ## Outcomes of loading -/

/-- The result is there, or an error about the manifest at the path is reported. -/
def Answers {α : Type} (p : Path) (result : Except Refusal α) : Prop :=
  (∃ a, result = .ok a) ∨ ∃ e, result = .error (.reported e) ∧ e.IsAbout p

theorem answers_request (h : ∀ d, ¬ Breaks host (Path.ofText origin) d) :
    Answers (Path.ofText origin) (request host origin) := by
  cases hresult : request host origin with
  | ok q => exact Or.inl ⟨q, rfl⟩
  | error r =>
    cases r with
    | reported e => exact Or.inr ⟨e, rfl, request_reported hresult⟩
    | defect d => exact absurd (breaks_of_request hresult) (h d)

theorem answers_granted (h : ∀ d, ¬ Breaks host (Path.ofText origin) d) :
    Answers (Path.ofText origin) (granted host origin).2 := by
  cases hresult : (granted host origin).2 with
  | ok rules => exact Or.inl ⟨rules, rfl⟩
  | error r =>
    cases r with
    | reported e => exact Or.inr ⟨e, rfl, granted_reported hresult⟩
    | defect d => exact absurd (breaks_of_granted hresult) (h d)

end Manifest

namespace Catalog

variable {host : Host} {c : Catalog} {entry : Path} {d : Defect}

/-- The entry breaks whoever loads the catalog. -/
inductive Breaks (host : Host) (c : Catalog) (entry : Path) : Defect → Prop where
  /-- it cannot be looked up -/
  | lookup {f : FileFault} (hf : host.files.has (c.locate entry) = .error f) :
      Breaks host c entry (.unreachable f (c.locate entry))
  /-- it is a file that breaks -/
  | file {d : Defect} (hd : Manifest.Breaks host (Path.ofText (c.locate entry).text) d) :
      Breaks host c entry d

theorem Refuses.breaks (h : c.Refuses host entry (.defect d)) : c.Breaks host entry d := by
  generalize hr : Refusal.defect d = r at h
  cases h with
  | lookup hf =>
    cases hr
    exact .lookup hf
  | file hfile hrequest =>
    subst hr
    exact .file (Manifest.breaks_of_request hrequest)

/-- A catalog is broken by one of its entries. -/
theorem exists_breaks_of_requests (h : (c.requests host).2 = .error (.defect d)) :
    ∃ entry ∈ c.entries, c.Breaks host entry d := by
  obtain ⟨entry, hentry, hr⟩ := (requests_eq_error.mp h).exists_mem
  exact ⟨entry, hentry, hr.breaks⟩

theorem answers_requests (h : ∀ entry ∈ c.entries, ∀ d, ¬ c.Breaks host entry d) :
    (∃ qs, (c.requests host).2 = .ok qs)
      ∨ ∃ entry ∈ c.entries, ∃ e, (c.requests host).2 = .error (.reported e)
          ∧ e.IsAbout (Path.ofText (c.locate entry).text) := by
  cases hresult : (c.requests host).2 with
  | ok qs => exact Or.inl ⟨qs, rfl⟩
  | error r =>
    obtain ⟨entry, hentry, hr⟩ := (requests_eq_error.mp hresult).exists_mem
    cases r with
    | reported e =>
      cases hr with
      | file _ hrequest => exact Or.inr ⟨entry, hentry, e, rfl, Manifest.request_reported hrequest⟩
    | defect d => exact absurd hr.breaks (h entry hentry d)

/-- The entries of the usual catalog are found where they are looked for. -/
theorem ofText_text_locate {base : String} {entry : Path} (h : entry ∈ (usual base).entries) :
    Path.ofText ((usual base).locate entry).text = (usual base).locate entry := by
  obtain ⟨text, _, rfl⟩ := List.mem_map.mp h
  exact Path.ofText_text (Path.normal_from (Path.normal_ofText base) (Path.normal_ofText text))

end Catalog

namespace CommandLine

variable {env : Environment} {host : Host} {a : Arguments} {s : Settings} {d : Defect}

/-! ## Runs -/

/-- The paths that a run may look up before it reads them: those of the usual catalog, when roles
    are checked and none is given. -/
def lookups (env : Environment) (arguments : List String) : List Path :=
  match read arguments with
  | .error _ => []
  | .ok a => match a.command, (Settings.resolve env a.overrides).2 with
    | .validate [] _, .ok s =>
      let catalog := Catalog.usual s.manifestDir
      catalog.entries.map catalog.locate
    | _, _ => []

theorem breaks_of_operator (h : (operator host s).2 = .error (.defect d)) :
    Manifest.Breaks host (Path.ofText s.operatorRole) d :=
  Manifest.breaks_of_granted (operator_eq_defect.mp h)

/-- A broken run has read a broken file, or looked for a file in vain; `paths` and `lookups` list
    it. -/
theorem exists_path_of_broken {arguments : List String} (ha : read arguments = .ok a)
    (h : Broken env host a d) :
    (∃ p ∈ paths env arguments, Manifest.Breaks host p d)
      ∨ ∃ p ∈ lookups env arguments, ∃ f, host.files.has p = .error f := by
  unfold paths lookups
  simp only [ha]
  cases h with
  | operator hs hd =>
    simp only [hs]
    exact Or.inl ⟨_, List.mem_cons_self, breaks_of_operator hd⟩
  | @role s g _ hs _ hd =>
    simp only [hs]
    cases hc : a.command with
    | audit format =>
      rw [hc] at hd
      cases hd
    | suggest role =>
      rw [hc] at hd
      have hrole := map_eq_error.mp hd
      exact Or.inl ⟨Path.ofText role, by simp, Manifest.breaks_of_request hrole⟩
    | validate roles format =>
      rw [hc] at hd
      cases roles with
      | nil =>
        obtain ⟨entry, hentry, hbreaks⟩ := Catalog.exists_breaks_of_requests hd
        have hmem := List.mem_map_of_mem (f := (Catalog.usual s.manifestDir).locate) hentry
        cases hbreaks with
        | lookup hf => exact Or.inr ⟨_, hmem, _, hf⟩
        | file hfile =>
          rw [Catalog.ofText_text_locate hentry] at hfile
          exact Or.inl ⟨_, List.mem_cons_of_mem _ hmem, hfile⟩
      | cons role roles =>
        obtain ⟨role', hrole', hr⟩ := (mapM_eq_error.mp hd).exists_mem
        refine Or.inl ⟨_, List.mem_cons_of_mem _ ?_, Manifest.breaks_of_request hr⟩
        exact List.mem_map_of_mem hrole'

/-- A run that is not broken comes to an exit code. -/
theorem exists_run_of_not_broken {arguments : List String} (ha : read arguments = .ok a)
    (time : String) (h : ∀ d, ¬ Broken env host a d) :
    ∃ o, run env host time arguments = .ok o := by
  rw [run_of_read ha]
  rcases ends_cases env host a with ⟨s, g, qs, hloaded⟩ | ⟨e, hrefused⟩ | ⟨d, hbroken⟩
  · obtain ⟨messages, hrun⟩ := runWith_of_loaded time hloaded
    exact ⟨_, hrun⟩
  · obtain ⟨messages, hrun⟩ := runWith_of_refused time hrefused
    exact ⟨_, hrun⟩
  · exact absurd hbroken (h d)

end CommandLine

/-! ## Main theorem -/

open Manifest CommandLine in
/-- **Loading fails only with errors about manifests, unless something
    breaks.** A request or the granted rules of a file that does not break
    are there or refused with an error about the file; a catalog without an
    entry that breaks is refused with an error about one of its entries. A
    run comes to exit code 0, 1 or 2 when no file that it may read breaks
    and every path that it may look up can be looked up; its findings are
    then printed unless the console lacks one of their characters. The
    defects that escape are exactly those of the file, of its first document
    for a request, of the first document that adds nothing to granted rules,
    and of the first entry of a catalog that ends the loading. -/
theorem failures_are_reported_unless_broken (host : Host) :
    (∀ origin, (∀ d, ¬ Breaks host (Path.ofText origin) d) →
      Answers (Path.ofText origin) (request host origin)
      ∧ Answers (Path.ofText origin) (granted host origin).2)
    ∧ (∀ c : Catalog, (∀ entry ∈ c.entries, ∀ d, ¬ c.Breaks host entry d) →
      (∃ qs, (c.requests host).2 = .ok qs)
        ∨ ∃ entry ∈ c.entries, ∃ e, (c.requests host).2 = .error (.reported e)
            ∧ e.IsAbout (Path.ofText (c.locate entry).text))
    ∧ (∀ env time arguments a, CommandLine.read arguments = .ok a →
      (∀ p ∈ paths env arguments, ∀ d, ¬ Breaks host p d) →
      (∀ p ∈ lookups env arguments, ∃ file, host.files.has p = .ok file) →
      ∃ o, run env host time arguments = .ok o
        ∧ (o.exit.code = 0 ∨ o.exit.code = 1 ∨ o.exit.code = 2)
        ∧ ∀ console : Console,
          (console.prints o.stdout = true →
            printed console (run env host time arguments) = .ok o)
          ∧ (console.prints o.stdout = false → ∃ c ∈ o.stdout.toList, console.has c = false
            ∧ printed console (run env host time arguments)
              = .error (.unencodable console.encoding c)))
    ∧ (∀ origin d, request host origin = .error (.defect d) ↔
      BreaksReading host (Path.ofText origin) d
        ∨ ∃ doc rest, documents host (Path.ofText origin) = .ok (doc :: rest)
            ∧ BreaksDocument host.limits doc d)
    ∧ (∀ origin d, (granted host origin).2 = .error (.defect d) ↔
      BreaksReading host (Path.ofText origin) d
        ∨ ∃ docs, documents host (Path.ofText origin) = .ok docs
            ∧ First (fun doc => ∃ rules, Adds host.limits doc rules)
                (fun doc => BreaksDocument host.limits doc d) docs)
    ∧ ∀ (c : Catalog) d, (c.requests host).2 = .error (.defect d) ↔
      First (c.Fits host) (fun entry => c.Refuses host entry (.defect d)) c.entries := by
  refine ⟨?_, ?_, ?_, ?_, ?_, ?_⟩
  · intro origin h
    exact ⟨answers_request h, answers_granted h⟩
  · intro c h
    exact Catalog.answers_requests h
  · intro env time arguments a ha hpaths hlookups
    have hbroken : ∀ d, ¬ Broken env host a d := by
      intro d hd
      rcases exists_path_of_broken ha hd with ⟨p, hp, hbreaks⟩ | ⟨p, hp, f, hf⟩
      · exact hpaths p hp d hbreaks
      · obtain ⟨file, hfile⟩ := hlookups p hp
        cases hf.symm.trans hfile
    obtain ⟨o, ho⟩ := exists_run_of_not_broken ha time hbroken
    refine ⟨o, ho, ?_, ?_⟩
    · cases o.exit <;> simp [Exit.code]
    · intro console
      rw [ho]
      exact ⟨printed_of_prints, exists_printed_of_not_prints⟩
  · intro origin d
    exact request_eq_defect
  · intro origin d
    exact granted_eq_defect
  · intro c d
    exact Catalog.requests_eq_error

open Manifest CommandLine in
/-- The theorem at a role file that is complete, beside files that no run reads. -/
theorem failures_are_reported_unless_broken_at_role :
    let arguments := ["suggest", "--role", "role.yaml", "--operator-role", "./role.yaml"]
    let c : Catalog := ⟨Path.ofText ".", [Path.ofText "role.yaml"]⟩
    (∀ d, ¬ Breaks smallDirectory (Path.ofText "role.yaml") d)
      ∧ Answers (Path.ofText "role.yaml") (request smallDirectory "role.yaml")
      ∧ (∀ entry ∈ c.entries, ∀ d, ¬ c.Breaks smallDirectory entry d)
      ∧ ((∃ qs, (c.requests smallDirectory).2 = .ok qs)
        ∨ ∃ entry ∈ c.entries, ∃ e, (c.requests smallDirectory).2 = .error (.reported e)
            ∧ e.IsAbout (Path.ofText (c.locate entry).text))
      ∧ ∃ o, run (fun _ => none) smallDirectory "now" arguments = .ok o
          ∧ (o.exit.code = 0 ∨ o.exit.code = 1 ∨ o.exit.code = 2)
          ∧ printed .full (run (fun _ => none) smallDirectory "now" arguments) = .ok o := by
  intro arguments c
  have hsound : ∀ d, ¬ Breaks smallDirectory (Path.ofText "role.yaml") d := by
    rintro d (hread | ⟨docs, doc, hdocs, hdoc, hrole⟩)
    · rw [← documents_eq_defect, documents_smallDirectory_role] at hread
      cases hread
    · rw [documents_smallDirectory_role] at hdocs
      cases hdocs
      obtain rfl := List.mem_singleton.mp hdoc
      rw [← ofManifest_eq_defect] at hrole
      cases hrole
  have hentry : ∀ entry ∈ c.entries, ∀ d, ¬ c.Breaks smallDirectory entry d := by
    intro entry hentry d hbreaks
    obtain rfl := List.mem_singleton.mp hentry
    cases hbreaks with
    | lookup hf =>
      have hfile : smallDirectory.files.has (c.locate (Path.ofText "role.yaml")) = .ok true := by
        decide +kernel
      cases hf.symm.trans hfile
    | file hfile => exact hsound d hfile
  have hpaths : paths (fun _ => none) arguments
      = [Path.ofText "role.yaml", Path.ofText "role.yaml"] := rfl
  have hlookups : lookups (fun _ => none) arguments = [] := rfl
  have hreported := failures_are_reported_unless_broken smallDirectory
  refine ⟨hsound, (hreported.1 "role.yaml" hsound).1, hentry, hreported.2.1 c hentry, ?_⟩
  obtain ⟨o, ho, hcode, hprinted⟩ := hreported.2.2.1 (fun _ => none) "now" arguments _ rfl
    (by
      intro p hp
      rw [hpaths] at hp
      obtain rfl : p = Path.ofText "role.yaml" := by simpa using hp
      exact hsound)
    (by
      rw [hlookups]
      exact nofun)
  exact ⟨o, ho, hcode, (hprinted .full).1 (by simp [Console.prints, Console.full])⟩

open Manifest CommandLine in
/-- A byte that starts no character escapes from every loader, and from the run. -/
theorem stray_byte_escapes :
    let host := Files.host ⟨fun _ => .ok [0xFF]⟩
    let d : Defect := .notUtf8 ⟨0, 1, 0xFF, .start⟩
    request host "role.yaml" = .error (.defect d)
      ∧ (granted host "role.yaml").2 = .error (.defect d)
      ∧ (Catalog.requests host ⟨Path.ofText ".", [Path.ofText "role.yaml"]⟩).2
          = .error (.defect d)
      ∧ run (fun _ => none) host "now" ["audit"] = .error (.defect d)
      ∧ ¬ Answers (Path.ofText "role.yaml") (request host "role.yaml") := by
  intro host d
  have hrequest : request host "role.yaml" = .error (.defect d) := rfl
  refine ⟨hrequest, rfl, rfl, rfl, ?_⟩
  rw [hrequest]
  rintro (⟨q, hq⟩ | ⟨e, he, _⟩)
  · cases hq
  · cases he

end RoleGuard

import Mathlib
import RoleGuard.Catalog
import RoleGuard.Proofs.Paths
import RoleGuard.Proofs.Steps

/-! # What Loading Ends In

    A manifest is loaded through three layers: the file, the documents in
    it, and the role in a document. Each layer either succeeds, or reports
    an error about the manifest, or meets a defect that nobody handles. Here
    every loader is brought into one form, a step on each of some items, and
    for each layer the defects are listed.
-/

namespace RoleGuard

/-- The error names the manifest at a path, perhaps in another spelling. -/
def Error.IsAbout (e : Error) (p : Path) : Prop :=
  ∃ origin reason details, e = .manifest origin reason details ∧ Path.ofText origin = p

namespace Manifest

variable {host : Host} {files : Files} {limits : Value.Limits} {p : Path} {origin text : String}
  {doc : Document} {docs : List Document} {q : Request} {rules : List Rule} {e : Error}
  {d : Defect} {r : Refusal}

theorem isAbout_fault (hp : p.Normal) (reason : String) : (fault p.text reason).IsAbout p :=
  ⟨p.text, reason, [], rfl, Path.ofText_text hp⟩

/-! ## Files -/

/-- What nobody handles while a file is read as documents. -/
inductive BreaksReading (host : Host) (p : Path) : Defect → Prop where
  /-- no file has such a name -/
  | name (hname : '\x00' ∈ p.text.toList) : BreaksReading host p .nullInName
  /-- the content is no text -/
  | content {content : List UInt8} {m : Text.Utf8.Malformed} (hname : '\x00' ∉ p.text.toList)
      (hread : host.files.read p = .ok content) (hm : Text.Utf8.decodeFrom 0 content = .error m) :
      BreaksReading host p (.notUtf8 m)
  /-- the text names a value that does not exist -/
  | value {text : String} {d : Defect} (htext : readText host.files p = .ok text)
      (hd : host.documents text = .error (.defect d)) : BreaksReading host p d

theorem readText_eq_ok :
    readText files p = .ok text ↔
      '\x00' ∉ p.text.toList ∧ ∃ content cs, files.read p = .ok content
        ∧ Text.Utf8.decodeFrom 0 content = .ok cs ∧ text = String.ofList (unifyBreaks cs) := by
  unfold readText
  by_cases hname : '\x00' ∈ p.text.toList
  · simp [hname]
  · cases hread : files.read p with
    | error f => simp [hname]
    | ok content =>
      cases hcs : Text.Utf8.decodeFrom 0 content with
      | error m => simp [hname, hcs]
      | ok cs => simp [hname, hcs, eq_comm]

theorem readText_eq_defect :
    readText files p = .error (.defect d) ↔
      ('\x00' ∈ p.text.toList ∧ d = .nullInName)
      ∨ ('\x00' ∉ p.text.toList ∧ ∃ content m, files.read p = .ok content
          ∧ Text.Utf8.decodeFrom 0 content = .error m ∧ d = .notUtf8 m) := by
  unfold readText
  by_cases hname : '\x00' ∈ p.text.toList
  · simp [hname, eq_comm]
  · cases hread : files.read p with
    | error f => simp [hname]
    | ok content =>
      cases hm : Text.Utf8.decodeFrom 0 content with
      | error m => simp [hname, hm, eq_comm]
      | ok cs => simp [hname, hm]

theorem readText_reported (hp : p.Normal) (h : readText files p = .error (.reported e)) :
    e.IsAbout p := by
  unfold readText at h
  split at h
  · cases h
  · split at h
    · cases h
      exact isAbout_fault hp _
    · split at h <;> cases h

/-! ## Documents -/

theorem mappings_error {vs : List Value} (h : mappings origin vs = .error e) :
    ∃ reason, e = fault origin reason := by
  induction vs with
  | nil => cases h
  | cons v vs ih =>
    cases v with
    | null => exact ih h
    | map entries => exact ih (map_eq_error.mp h)
    | _ =>
      cases h
      exact ⟨_, rfl⟩

/-- The only defects of a text are those of its values. -/
theorem parse_eq_defect :
    parse host origin text = .error (.defect d) ↔ host.documents text = .error (.defect d) := by
  unfold parse
  cases hdocs : host.documents text with
  | error f => cases f <;> simp [unreadable]
  | ok values =>
    simp only [mapError_eq_error, reduceCtorEq, and_false, exists_false]

theorem parse_reported (hp : p.Normal) (h : parse host p.text text = .error (.reported e)) :
    e.IsAbout p := by
  unfold parse at h
  split at h
  · rename_i f _
    cases f with
    | problem problem =>
      cases h
      exact isAbout_fault hp _
    | defect d => cases h
  · obtain ⟨e', hmappings, he⟩ := mapError_eq_error.mp h
    obtain ⟨reason, rfl⟩ := mappings_error hmappings
    cases he
    exact isAbout_fault hp reason

theorem documents_eq_ok :
    documents host p = .ok docs ↔
      docs ≠ [] ∧ ∃ text, readText host.files p = .ok text ∧ parse host p.text text = .ok docs := by
  unfold documents
  simp only [bind_eq_ok]
  constructor
  · rintro ⟨text, htext, found, hfound, hrest⟩
    cases found with
    | nil => cases hrest
    | cons doc rest =>
      cases hrest
      exact ⟨List.cons_ne_nil doc rest, text, htext, hfound⟩
  · rintro ⟨hdocs, text, htext, hfound⟩
    refine ⟨text, htext, docs, hfound, ?_⟩
    cases docs with
    | nil => exact absurd rfl hdocs
    | cons doc rest => rfl

/-- The documents of a file with a known text. -/
theorem documents_of_content {content : List UInt8} {cs : List Char} {values : List Value}
    (hname : '\x00' ∉ p.text.toList) (hread : host.files.read p = .ok content)
    (hcs : Text.Utf8.decodeFrom 0 content = .ok cs)
    (hvalues : host.documents (String.ofList (unifyBreaks cs)) = .ok values)
    (hdocs : mappings p.text values = .ok docs) (hne : docs ≠ []) :
    documents host p = .ok docs := by
  refine documents_eq_ok.mpr ⟨hne, _, readText_eq_ok.mpr ⟨hname, _, _, hread, hcs, rfl⟩, ?_⟩
  unfold parse
  rw [hvalues]
  exact congrArg (Except.mapError Refusal.reported) hdocs

theorem documents_eq_defect :
    documents host p = .error (.defect d) ↔ BreaksReading host p d := by
  unfold documents
  simp only [bind_eq_error]
  constructor
  · rintro (htext | ⟨text, htext, hparse | ⟨found, hfound, hrest⟩⟩)
    · rcases readText_eq_defect.mp htext with ⟨hname, rfl⟩ | ⟨hname, content, m, hread, hm, rfl⟩
      · exact .name hname
      · exact .content hname hread hm
    · exact .value htext (parse_eq_defect.mp hparse)
    · cases found <;> cases hrest
  · intro h
    cases h with
    | name hname => exact Or.inl (readText_eq_defect.mpr (Or.inl ⟨hname, rfl⟩))
    | content hname hread hm =>
      exact Or.inl (readText_eq_defect.mpr (Or.inr ⟨hname, _, _, hread, hm, rfl⟩))
    | value htext hd => exact Or.inr ⟨_, htext, Or.inl (parse_eq_defect.mpr hd)⟩

theorem documents_reported (hp : p.Normal) (h : documents host p = .error (.reported e)) :
    e.IsAbout p := by
  unfold documents at h
  rcases bind_eq_error.mp h with htext | ⟨text, _, hparsed⟩
  · exact readText_reported hp htext
  · rcases bind_eq_error.mp hparsed with hparse | ⟨found, _, hrest⟩
    · exact parse_reported hp hparse
    · cases found <;> cases hrest
      exact isAbout_fault hp _

/-! ## Roles -/

/-- What nobody handles while a document is read. -/
inductive BreaksDocument (limits : Value.Limits) (doc : Document) : Defect → Prop where
  /-- it is no role, and its kind cannot be shown -/
  | kind {d : Defect} (hrole : isRole doc = false)
      (hd : (Request.kindOf doc).obstacle? limits = some d) : BreaksDocument limits doc d
  /-- it is a role, and its metadata has no fields and is not empty -/
  | metadata {v : Value} (hrole : isRole doc = true) (hv : Value.lookup "metadata" doc = some v)
      (hmap : ∀ fields, v ≠ .map fields) (hempty : v.isEmpty = false) :
      BreaksDocument limits doc (.fieldless v.fullKindName)
  /-- it is a role with a name that cannot be shown, so the name is no text -/
  | name {fields : List (Value × Value)} {d : Defect} (hrole : isRole doc = true)
      (hfields : Request.metadataOf doc = .ok fields)
      (hd : (Request.nameOf fields).obstacle? limits = some d) : BreaksDocument limits doc d

theorem isRole_iff : isRole doc = true ↔ ∃ k, Request.roleKind? (Request.kindOf doc) = some k := by
  unfold isRole
  exact Option.isSome_iff_exists

theorem isRole_eq_false_iff :
    isRole doc = false ↔ Request.roleKind? (Request.kindOf doc) = none := by
  unfold isRole
  exact Option.isSome_eq_false_iff.trans Option.isNone_iff_eq_none

theorem metadataOf_eq_error :
    Request.metadataOf doc = .error d ↔
      ∃ v, Value.lookup "metadata" doc = some v ∧ (∀ fields, v ≠ .map fields)
        ∧ v.isEmpty = false ∧ d = .fieldless v.fullKindName := by
  unfold Request.metadataOf
  split
  · rename_i hnone
    simp [hnone]
  · rename_i fields hmap
    simp [hmap]
  · rename_i v hmap hv
    cases hempty : v.isEmpty with
    | true => simp [hv, hempty]
    | false =>
      constructor
      · intro h
        cases h
        exact ⟨v, hv, hmap, hempty, rfl⟩
      · rintro ⟨v', hv', _, _, rfl⟩
        cases hv.symm.trans hv'
        rfl

/-- A name that cannot be shown is no text. -/
theorem exists_faults_of_obstacle {fields : List (Value × Value)} {name : Value}
    (hname : Value.lookup "name" fields = some name) (hd : name.obstacle? limits = some d) :
    ∃ faults, Request.readFields fields = .error faults := by
  obtain ⟨faults, hfaults⟩ : ∃ faults,
      Schema.required Schema.text [] "name" fields = .error faults := by
    unfold Schema.required
    rw [hname]
    cases name with
    | text s => simp at hd
    | bytes content =>
      unfold Value.obstacle? at hd
      cases limits.depth <;> cases hd
    | _ => exact ⟨_, rfl⟩
  unfold Request.readFields
  rw [hfaults]
  generalize Checked.both (Schema.optional none _ [] ["namespace"] fields) _ = others
  cases others with
  | error faults' => exact ⟨faults ++ faults', rfl⟩
  | ok p => exact ⟨faults, rfl⟩

theorem ofRoleDocument_eq_defect {k : String} {fields : List (Value × Value)} :
    Request.ofRoleDocument limits k fields doc = .error (.defect d)
      ↔ (Request.nameOf fields).obstacle? limits = some d := by
  unfold Request.ofRoleDocument Request.invalid
  rw [mapError_eq_error]
  constructor
  · rintro ⟨faults, _, hd⟩
    exact Request.refusal_eq_defect.mp hd
  · intro hd
    let handed : List (Value × Value) := [
      (.text "name", Request.nameOf fields),
      (.text "namespace", (Value.lookup "namespace" fields).getD .null),
      (.text "kind", .text k),
      (.text "rules", (Value.lookup "rules" doc).getD .null)]
    have hname : Value.lookup "name" handed = some (Request.nameOf fields) := rfl
    obtain ⟨faults, hfaults⟩ := exists_faults_of_obstacle hname hd
    exact ⟨faults, hfaults, Request.refusal_eq_defect.mpr hd⟩

theorem ofManifest_eq_defect :
    Request.ofManifest limits (.map doc) = .error (.defect d) ↔ BreaksDocument limits doc d := by
  rw [Request.ofManifest_map]
  constructor
  · intro h
    cases hkind : Request.roleKind? (Request.kindOf doc) with
    | none =>
      simp only [hkind, Except.error.injEq] at h
      exact .kind (isRole_eq_false_iff.mpr hkind) (Request.refusal_eq_defect.mp h)
    | some k =>
      have hrole := isRole_iff.mpr ⟨k, hkind⟩
      cases hmeta : Request.metadataOf doc with
      | error d' =>
        simp only [hkind, hmeta] at h
        cases h
        obtain ⟨v, hv, hmap, hempty, rfl⟩ := metadataOf_eq_error.mp hmeta
        exact .metadata hrole hv hmap hempty
      | ok fields =>
        simp only [hkind, hmeta] at h
        exact .name hrole hmeta (ofRoleDocument_eq_defect.mp h)
  · intro h
    cases h with
    | kind hrole hd =>
      simp only [isRole_eq_false_iff.mp hrole]
      exact congrArg Except.error (Request.refusal_eq_defect.mpr hd)
    | metadata hrole hv hmap hempty =>
      obtain ⟨k, hkind⟩ := isRole_iff.mp hrole
      simp only [hkind, metadataOf_eq_error.mpr ⟨_, hv, hmap, hempty, rfl⟩]
    | name hrole hfields hd =>
      obtain ⟨k, hkind⟩ := isRole_iff.mp hrole
      simp only [hkind, hfields]
      exact ofRoleDocument_eq_defect.mpr hd

/-- The request in a document is the same wherever the document comes from. -/
theorem requestOf_eq_ok :
    requestOf limits origin doc = .ok q ↔ Request.ofManifest limits (.map doc) = .ok q := by
  unfold requestOf
  exact mapError_eq_ok

theorem isRole_of_ofManifest (h : Request.ofManifest limits (.map doc) = .ok q) :
    isRole doc = true := by
  rw [Request.ofManifest_map] at h
  cases hkind : Request.roleKind? (Request.kindOf doc) with
  | none =>
    rw [hkind] at h
    cases h
  | some k => exact isRole_iff.mpr ⟨k, hkind⟩

theorem requestOf_eq_defect :
    requestOf limits origin doc = .error (.defect d) ↔ BreaksDocument limits doc d := by
  unfold requestOf
  rw [mapError_eq_error, ← ofManifest_eq_defect]
  constructor
  · rintro ⟨r, hr, hd⟩
    cases r <;> cases hd
    exact hr
  · intro hr
    exact ⟨_, hr, rfl⟩

theorem requestOf_reported (h : requestOf limits origin doc = .error (.reported e)) :
    e.IsAbout (Path.ofText origin) := by
  unfold requestOf at h
  obtain ⟨r, _, hr⟩ := mapError_eq_error.mp h
  cases r <;> cases hr
  exact ⟨origin, _, _, rfl, rfl⟩

/-! ## Documents among others -/

/-- The rules that a document adds to the granted ones: those of a role, or none if it is no role
    and its kind can be shown. -/
inductive Adds (limits : Value.Limits) (doc : Document) : List Rule → Prop where
  /-- the rules of a role -/
  | role {q : Request} (hq : Request.ofManifest limits (.map doc) = .ok q) :
      Adds limits doc q.rules
  /-- no rules -/
  | other (hrole : isRole doc = false) (hshown : (Request.kindOf doc).obstacle? limits = none) :
      Adds limits doc []

theorem contribution_of_role (h : isRole doc = true) (limits : Value.Limits) (origin : String) :
    contribution limits origin doc
      = (requestOf limits origin doc).map fun q => ([], q.rules) := by
  unfold contribution
  rw [if_pos h]

theorem contribution_of_other (h : isRole doc = false) (limits : Value.Limits) (origin : String) :
    contribution limits origin doc
      = ((skipNote limits origin doc).map fun note => ([note], [])).mapError .defect := by
  unfold contribution
  rw [h]
  rfl

theorem skipNote_eq_error :
    skipNote limits origin doc = .error d ↔ (Request.kindOf doc).obstacle? limits = some d := by
  unfold skipNote
  rw [bind_eq_error, Value.shown_eq_error]
  exact or_iff_left nofun

theorem exists_contribution_iff (origin : String) :
    (∃ notes, contribution limits origin doc = .ok (notes, rules)) ↔ Adds limits doc rules := by
  cases hrole : isRole doc with
  | true =>
    simp only [contribution_of_role hrole, map_eq_ok, requestOf_eq_ok, Prod.mk.injEq]
    constructor
    · rintro ⟨_, q, hq, _, rfl⟩
      exact .role hq
    · rintro (hq | ⟨hother, _⟩)
      · exact ⟨[], _, hq, rfl, rfl⟩
      · cases hrole.symm.trans hother
  | false =>
    rw [contribution_of_other hrole]
    constructor
    · rintro ⟨notes, h⟩
      obtain ⟨note, hnote, hp⟩ := map_eq_ok.mp (mapError_eq_ok.mp h)
      cases hp
      refine .other hrole (Option.eq_none_iff_forall_not_mem.mpr fun d hd => ?_)
      cases hnote.symm.trans (skipNote_eq_error.mpr hd)
    · rintro (hq | ⟨_, hshown⟩)
      · cases hrole.symm.trans (isRole_of_ofManifest hq)
      · have hkind : (Request.kindOf doc).shown limits Value.display
            = .ok (Request.kindOf doc).display := Value.shown_eq_ok.mpr ⟨hshown, rfl⟩
        unfold skipNote
        rw [hkind]
        exact ⟨_, rfl⟩

theorem contribution_eq_defect :
    contribution limits origin doc = .error (.defect d) ↔ BreaksDocument limits doc d := by
  cases hrole : isRole doc with
  | true => rw [contribution_of_role hrole, map_eq_error, requestOf_eq_defect]
  | false =>
    rw [contribution_of_other hrole, mapError_eq_error]
    simp only [map_eq_error, skipNote_eq_error, Refusal.defect.injEq, exists_eq_right]
    constructor
    · exact .kind hrole
    · rintro (⟨_, hd⟩ | ⟨hrole', _⟩ | ⟨hrole', _⟩)
      · exact hd
      · cases hrole.symm.trans hrole'
      · cases hrole.symm.trans hrole'

theorem contribution_reported (h : contribution limits origin doc = .error (.reported e)) :
    e.IsAbout (Path.ofText origin) := by
  cases hrole : isRole doc with
  | true =>
    rw [contribution_of_role hrole, map_eq_error] at h
    exact requestOf_reported h
  | false =>
    rw [contribution_of_other hrole] at h
    obtain ⟨d, _, hd⟩ := mapError_eq_error.mp h
    cases hd

/-! ## Loaders -/

theorem request_eq_ok :
    request host origin = .ok q ↔
      ∃ doc rest, documents host (Path.ofText origin) = .ok (doc :: rest)
        ∧ Request.ofManifest host.limits (.map doc) = .ok q := by
  unfold request
  rw [bind_eq_ok]
  constructor
  · rintro ⟨docs, hdocs, hfirst⟩
    cases docs with
    | nil => cases hfirst
    | cons doc rest => exact ⟨doc, rest, hdocs, requestOf_eq_ok.mp hfirst⟩
  · rintro ⟨doc, rest, hdocs, hfirst⟩
    exact ⟨doc :: rest, hdocs, requestOf_eq_ok.mpr hfirst⟩

theorem request_eq_defect :
    request host origin = .error (.defect d) ↔
      BreaksReading host (Path.ofText origin) d
      ∨ ∃ doc rest, documents host (Path.ofText origin) = .ok (doc :: rest)
          ∧ BreaksDocument host.limits doc d := by
  unfold request
  rw [bind_eq_error, documents_eq_defect]
  constructor
  · rintro (hread | ⟨docs, hdocs, hfirst⟩)
    · exact Or.inl hread
    · cases docs with
      | nil => cases hfirst
      | cons doc rest => exact Or.inr ⟨doc, rest, hdocs, requestOf_eq_defect.mp hfirst⟩
  · rintro (hread | ⟨doc, rest, hdocs, hrole⟩)
    · exact Or.inl hread
    · exact Or.inr ⟨doc :: rest, hdocs, requestOf_eq_defect.mpr hrole⟩

theorem request_reported (h : request host origin = .error (.reported e)) :
    e.IsAbout (Path.ofText origin) := by
  have hnormal := Path.normal_ofText origin
  unfold request at h
  rcases bind_eq_error.mp h with hdocs | ⟨docs, hdocs, hfirst⟩
  · exact documents_reported hnormal hdocs
  · cases docs with
    | nil => exact absurd rfl (documents_eq_ok.mp hdocs).1
    | cons doc rest => exact requestOf_reported hfirst

theorem granted_snd (host : Host) (origin : String) :
    (granted host origin).2
      = documents host (Path.ofText origin) >>= fun docs =>
          (grantedOf host.limits origin docs).2 := by
  unfold granted
  cases documents host (Path.ofText origin) <;> rfl

/-- What the documents add is granted if there is a role. -/
theorem grantedOf_snd (limits : Value.Limits) (origin : String) (docs : List Document) :
    (grantedOf limits origin docs).2
      = (docs.mapM (contribution limits origin)).map (List.flatMap Prod.snd) >>= fun rules =>
          if docs.any isRole then .ok rules
          else .error (.reported (fault origin "no Role or ClusterRole document found")) := by
  unfold grantedOf
  rw [Logged.andThen_snd, Logged.collect_snd]

/-- Every document adds its rules, whatever notes are left. -/
theorem forall₂_contribution_iff (origin : String) :
    (∃ parts, List.Forall₂ (fun doc p => contribution limits origin doc = .ok p) docs parts
        ∧ rules = parts.flatMap Prod.snd)
      ↔ ∃ parts, List.Forall₂ (Adds limits) docs parts ∧ rules = parts.flatten := by
  induction docs generalizing rules with
  | nil => simp
  | cons doc docs ih =>
    simp only [List.forall₂_cons_left_iff]
    constructor
    · rintro ⟨_, ⟨p, parts, hp, hparts, rfl⟩, rfl⟩
      obtain ⟨rest, hrest, heq⟩ := ih.mp ⟨parts, hparts, rfl⟩
      refine ⟨_, ⟨p.2, rest, (exists_contribution_iff origin).mp ⟨p.1, hp⟩, hrest, rfl⟩, ?_⟩
      rw [List.flatMap_cons, List.flatten_cons, heq]
    · rintro ⟨_, ⟨added, parts, hadded, hparts, rfl⟩, rfl⟩
      obtain ⟨rest, hrest, heq⟩ := ih.mpr ⟨parts, hparts, rfl⟩
      obtain ⟨notes, hp⟩ := (exists_contribution_iff origin).mpr hadded
      refine ⟨_, ⟨(notes, added), rest, hp, hrest, rfl⟩, ?_⟩
      rw [List.flatMap_cons, List.flatten_cons, heq]

theorem granted_eq_ok :
    (granted host origin).2 = .ok rules ↔
      ∃ docs parts, documents host (Path.ofText origin) = .ok docs ∧ docs.any isRole = true
        ∧ List.Forall₂ (Adds host.limits) docs parts ∧ rules = parts.flatten := by
  rw [granted_snd, bind_eq_ok]
  refine exists_congr fun docs => ?_
  rw [exists_and_left, exists_and_left, ← forall₂_contribution_iff origin]
  refine and_congr_right fun _ => ?_
  rw [grantedOf_snd, bind_eq_ok]
  constructor
  · rintro ⟨rules', hrules, hany⟩
    obtain ⟨parts, hparts, rfl⟩ := map_eq_ok.mp hrules
    split at hany
    · rename_i hrole
      cases hany
      exact ⟨hrole, parts, mapM_eq_ok.mp hparts, rfl⟩
    · cases hany
  · rintro ⟨hrole, parts, hparts, rfl⟩
    exact ⟨_, map_eq_ok.mpr ⟨parts, mapM_eq_ok.mpr hparts, rfl⟩, if_pos hrole⟩

/-- The rules depend on the file, not on how its path is given. -/
theorem granted_eq_ok_of_ofText {origin' : String}
    (hpath : Path.ofText origin = Path.ofText origin') (h : (granted host origin).2 = .ok rules) :
    (granted host origin').2 = .ok rules := by
  rw [granted_eq_ok, ← hpath]
  exact granted_eq_ok.mp h

theorem passes_contribution_iff :
    (∃ p, contribution limits origin doc = .ok p) ↔ ∃ rules, Adds limits doc rules := by
  simp only [← exists_contribution_iff origin, Prod.exists]
  exact exists_comm

/-- The first document that breaks is met if all documents before it add their rules. -/
theorem granted_eq_defect :
    (granted host origin).2 = .error (.defect d) ↔
      BreaksReading host (Path.ofText origin) d
      ∨ ∃ docs, documents host (Path.ofText origin) = .ok docs
          ∧ First (fun doc => ∃ rules, Adds host.limits doc rules)
              (fun doc => BreaksDocument host.limits doc d) docs := by
  rw [granted_snd, bind_eq_error, documents_eq_defect]
  refine or_congr_right (exists_congr fun docs => and_congr_right fun _ => ?_)
  rw [grantedOf_snd, bind_eq_error, map_eq_error, mapM_eq_error]
  simp only [passes_contribution_iff, contribution_eq_defect]
  refine or_iff_left ?_
  rintro ⟨rules, -, hnone⟩
  split at hnone <;> cases hnone

/-- And so does the defect. -/
theorem granted_eq_defect_of_ofText {origin' : String}
    (hpath : Path.ofText origin = Path.ofText origin')
    (h : (granted host origin).2 = .error (.defect d)) :
    (granted host origin').2 = .error (.defect d) := by
  rw [granted_eq_defect, ← hpath]
  exact granted_eq_defect.mp h

theorem granted_reported (h : (granted host origin).2 = .error (.reported e)) :
    e.IsAbout (Path.ofText origin) := by
  have hnormal := Path.normal_ofText origin
  rw [granted_snd] at h
  rcases bind_eq_error.mp h with hdocs | ⟨docs, _, hroles⟩
  · exact documents_reported hnormal hdocs
  · rw [grantedOf_snd] at hroles
    rcases bind_eq_error.mp hroles with hdocs | ⟨rules, _, hnone⟩
    · rw [map_eq_error, mapM_eq_error] at hdocs
      obtain ⟨doc, _, hdoc⟩ := hdocs.exists_mem
      exact contribution_reported hdoc
    · split at hnone
      · cases hnone
      · cases hnone
        exact ⟨origin, _, _, rfl, rfl⟩

/-! ## Small manifests -/

/-- The content of an operator without rules. -/
def operatorContent : List UInt8 :=
  "\"rules\": []\n".toUTF8.toList

/-- The content of a role with one rule. -/
def roleContent : List UInt8 :=
  "\"rules\":\n- \"verbs\": [\"get\"]\n".toUTF8.toList

theorem documents_of_operatorContent (hname : '\x00' ∉ p.text.toList)
    (hread : files.read p = .ok operatorContent) :
    documents files.host p = .ok [[(.text "rules", .list [])]] :=
  documents_of_content hname hread (by cbv) (by cbv) rfl (by simp)

theorem documents_of_roleContent (hname : '\x00' ∉ p.text.toList)
    (hread : files.read p = .ok roleContent) :
    documents files.host p
      = .ok [[(.text "rules", .list [.map [(.text "verbs", .list [.text "get"])]])]] :=
  documents_of_content hname hread (by cbv) (by cbv) rfl (by simp)

/-- A file with one document grants what the document adds. -/
theorem granted_of_singleton (hdocs : documents host (Path.ofText origin) = .ok [doc])
    (hq : Request.ofManifest host.limits (.map doc) = .ok q) :
    (granted host origin).2 = .ok q.rules := by
  refine granted_eq_ok.mpr ⟨[doc], [q.rules], hdocs, ?_, .cons (.role hq) .nil, ?_⟩
  · simpa using isRole_of_ofManifest hq
  · simp

theorem granted_of_operatorContent (hname : '\x00' ∉ (Path.ofText origin).text.toList)
    (hread : files.read (Path.ofText origin) = .ok operatorContent) :
    (granted files.host origin).2 = .ok [] :=
  granted_of_singleton (q := ⟨"", none, "Role", []⟩) (documents_of_operatorContent hname hread) rfl

theorem request_of_roleContent (hname : '\x00' ∉ (Path.ofText origin).text.toList)
    (hread : files.read (Path.ofText origin) = .ok roleContent) :
    request files.host origin = .ok ⟨"", none, "Role", [⟨[], [], ["get"], []⟩]⟩ :=
  request_eq_ok.mpr ⟨_, _, documents_of_roleContent hname hread, rfl⟩

/-! ## A small directory -/

/-- An operator without rules, and a role with one. Every other file is broken. -/
def smallFiles : Files where
  read p :=
    if p = Path.ofText "operator.yaml" then .ok operatorContent
    else if p = Path.ofText "role.yaml" then .ok roleContent
    else .ok [0xFF]

/-- The host of these files. -/
def smallDirectory : Host :=
  smallFiles.host

theorem documents_smallDirectory_operator :
    documents smallDirectory (Path.ofText "operator.yaml")
      = .ok [[(.text "rules", .list [])]] := by
  have hread : smallFiles.read (Path.ofText "operator.yaml") = .ok operatorContent := by
    simp only [smallFiles, if_true]
  exact documents_of_operatorContent (by decide) hread

theorem documents_smallDirectory_role :
    documents smallDirectory (Path.ofText "role.yaml")
      = .ok [[(.text "rules", .list [.map [(.text "verbs", .list [.text "get"])]])]] := by
  have hread : smallFiles.read (Path.ofText "role.yaml") = .ok roleContent := by
    have hother : Path.ofText "role.yaml" ≠ Path.ofText "operator.yaml" := by decide
    simp only [smallFiles, hother, if_false, if_true]
  exact documents_of_roleContent (by decide) hread

theorem granted_smallDirectory : (granted smallDirectory "operator.yaml").2 = .ok [] :=
  granted_of_singleton (q := ⟨"", none, "Role", []⟩) documents_smallDirectory_operator rfl

theorem request_smallDirectory : request smallDirectory "role.yaml"
    = .ok ⟨"", none, "Role", [⟨[], [], ["get"], []⟩]⟩ :=
  request_eq_ok.mpr ⟨_, _, documents_smallDirectory_role, rfl⟩

end Manifest

/-! ## Catalogs -/

namespace Catalog

variable {host : Host} {c : Catalog} {entry : Path} {r : Refusal}

/-- The entry can be looked up, and it holds a request if it is a file. -/
inductive Fits (host : Host) (c : Catalog) (entry : Path) : Prop where
  /-- it is no file -/
  | absent (hfile : host.files.has (c.locate entry) = .ok false)
  /-- it is a file, and holds a request -/
  | present {q : Request} (hfile : host.files.has (c.locate entry) = .ok true)
      (hq : Manifest.request host (c.locate entry).text = .ok q)

/-- Why an entry ends the loading. -/
inductive Refuses (host : Host) (c : Catalog) (entry : Path) : Refusal → Prop where
  /-- it cannot be looked up -/
  | lookup {f : FileFault} (hf : host.files.has (c.locate entry) = .error f) :
      Refuses host c entry (.defect (.unreachable f (c.locate entry)))
  /-- it is a file that is refused -/
  | file {r : Refusal} (hfile : host.files.has (c.locate entry) = .ok true)
      (hr : Manifest.request host (c.locate entry).text = .error r) : Refuses host c entry r

theorem contribution_of_absent (h : host.files.has (c.locate entry) = .ok false) :
    contribution host c entry = .ok ([skipNote entry], []) := by
  unfold contribution
  rw [h]

theorem contribution_of_present (h : host.files.has (c.locate entry) = .ok true) :
    contribution host c entry
      = (Manifest.request host (c.locate entry).text).map fun q => ([], [q]) := by
  unfold contribution
  rw [h]

theorem contribution_eq_error : contribution host c entry = .error r ↔ c.Refuses host entry r := by
  constructor
  · intro h
    cases hfile : host.files.has (c.locate entry) with
    | error f =>
      unfold contribution at h
      rw [hfile] at h
      cases h
      exact .lookup hfile
    | ok file =>
      cases file with
      | false =>
        rw [contribution_of_absent hfile] at h
        cases h
      | true =>
        rw [contribution_of_present hfile, map_eq_error] at h
        exact .file hfile h
  · intro h
    cases h with
    | lookup hf =>
      unfold contribution
      rw [hf]
    | file hfile hr => rw [contribution_of_present hfile, map_eq_error, hr]

theorem exists_contribution_iff :
    (∃ p, contribution host c entry = .ok p) ↔ c.Fits host entry := by
  constructor
  · rintro ⟨p, hp⟩
    cases hfile : host.files.has (c.locate entry) with
    | error f => cases hp.symm.trans (contribution_eq_error.mpr (.lookup hfile))
    | ok file =>
      cases file with
      | false => exact .absent hfile
      | true =>
        rw [contribution_of_present hfile] at hp
        obtain ⟨q, hq, _⟩ := map_eq_ok.mp hp
        exact .present hfile hq
  · intro h
    cases h with
    | absent hfile => exact ⟨_, contribution_of_absent hfile⟩
    | present hfile hq =>
      exact ⟨_, (contribution_of_present hfile).trans (map_eq_ok.mpr ⟨_, hq, rfl⟩)⟩

theorem requests_eq_error :
    (c.requests host).2 = .error r ↔
      First (c.Fits host) (fun entry => c.Refuses host entry r) c.entries := by
  unfold requests
  rw [Logged.collect_snd, map_eq_error, mapM_eq_error]
  simp only [exists_contribution_iff, contribution_eq_error]

end Catalog

end RoleGuard

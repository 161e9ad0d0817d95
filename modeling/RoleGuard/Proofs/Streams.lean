import RoleGuard.Proofs.Loading
import RoleGuard.Proofs.RoleDocuments

/-! # Streams of Documents

    A file is a stream of documents, and the rules that it grants are those
    of all its roles. The rules depend on the values of the documents alone,
    and they are granted all or not at all:

    * **Success**: every document is absent or a mapping, at least one is a
      role, every role can be read, and the kinds of all others can be shown.
      Then no role is left out.
    * **Refusal**: three failures compete. The first document of another
      shape comes before all others, wherever it stands; then comes the
      first document that does not pass, also behind roles that do; and that
      there is no role is said only when there is none.
    * **Streams**: documents that are passed over make no difference to what
      is granted, and streams that follow each other grant their rules one
      after the other.

    A document of another kind is passed over with a note that shows its
    kind. Where the kind cannot be shown, the note is what refuses the file.
-/

namespace RoleGuard

namespace Manifest

open Request

variable {host : Host} {limits : Value.Limits} {origin text : String} {v : Value}
  {vs ws : List Value} {doc : Document} {docs : List Document} {qs : List Request}
  {rules rules' : List Rule} {e : Error} {r : Refusal}

/-! ## Values of a stream -/

/-- The file can be read as a text, and these are the values of its documents. -/
def Yields (host : Host) (origin : String) (vs : List Value) : Prop :=
  ∃ text, readText host.files (Path.ofText origin) = .ok text ∧ host.documents text = .ok vs

/-- The value is the document of a role: a mapping without a kind, or with the kind of a role. -/
def IsRole (v : Value) : Prop :=
  ∃ doc k, v = .map doc ∧ HasKind doc k

/-- The value is absent or a mapping. -/
def Fits (v : Value) : Prop :=
  v = .null ∨ ∃ doc, v = .map doc

/-- The kind of the value can be shown, if it has one. -/
def KindShown (limits : Value.Limits) (v : Value) : Prop :=
  ∀ doc k, v = .map doc → Value.lookup "kind" doc = some k → k.obstacle? limits = none

/-- The value is absent or a mapping of another kind that can be shown. -/
structure PassedOver (limits : Value.Limits) (v : Value) : Prop where
  /-- it is absent or a mapping -/
  fits : Fits v
  /-- it is no role -/
  other : ¬ IsRole v
  /-- the note about it can be made -/
  shown : KindShown limits v

/-- The value does not end the loading: it is a role that is read, or passed over. -/
structure Passes (limits : Value.Limits) (v : Value) : Prop where
  /-- it is absent or a mapping -/
  fits : Fits v
  /-- a role is read -/
  role : IsRole v → ∃ q, ofManifest limits v = .ok q
  /-- what is no role has a kind that can be shown -/
  other : ¬ IsRole v → KindShown limits v

/-- Why a mapping ends the loading. -/
inductive Stops (limits : Value.Limits) (origin : String) (v : Value) : Refusal → Prop where
  /-- it is a role that is refused, and the refusal is blamed on the file -/
  | role {r : Refusal} (hrole : IsRole v) (hr : ofManifest limits v = .error r) :
      Stops limits origin v (blame origin r)
  /-- it is no role, and its kind cannot be shown -/
  | other {doc : Document} {k : Value} {o : Defect} (hv : v = .map doc) (hrole : ¬ IsRole v)
      (hk : Value.lookup "kind" doc = some k) (ho : k.obstacle? limits = some o) :
      Stops limits origin v (.defect o)

/-- The mapping that a value is. -/
def mapping? : Value → Option Document
  | .map doc => some doc
  | _ => none

theorem isRole_map_iff : IsRole (.map doc) ↔ isRole doc = true := by
  rw [isRole_iff]
  constructor
  · rintro ⟨_, k, ⟨⟩, hk⟩
    exact ⟨k, roleKind?_kindOf_iff.mpr hk⟩
  · rintro ⟨k, hk⟩
    exact ⟨doc, k, rfl, roleKind?_kindOf_iff.mp hk⟩

theorem isRole_iff_mapping? : IsRole v ↔ (mapping? v).any isRole = true := by
  cases v with
  | map doc => exact isRole_map_iff
  | _ =>
    refine iff_of_false ?_ (by simp [mapping?])
    rintro ⟨_, _, ⟨⟩, _⟩

instance : DecidablePred IsRole := fun _ => decidable_of_iff _ isRole_iff_mapping?.symm

theorem any_isRole_iff : (vs.filterMap mapping?).any isRole = true ↔ ∃ v ∈ vs, IsRole v := by
  rw [List.any_eq_true]
  constructor
  · rintro ⟨doc, hdoc, hrole⟩
    obtain ⟨v, hv, hmap⟩ := List.mem_filterMap.mp hdoc
    exact ⟨v, hv, isRole_iff_mapping?.mpr (by rw [hmap]; exact hrole)⟩
  · rintro ⟨v, hv, hrole⟩
    obtain ⟨doc, k, rfl, hk⟩ := hrole
    exact ⟨doc, List.mem_filterMap.mpr ⟨_, hv, rfl⟩, isRole_map_iff.mp ⟨doc, k, rfl, hk⟩⟩

/-! ## Mappings -/

theorem mappings_of_fits (h : ∀ v ∈ vs, Fits v) :
    mappings origin vs = .ok (vs.filterMap mapping?) := by
  induction vs with
  | nil => rfl
  | cons v vs ih =>
    obtain ⟨hv, hvs⟩ := List.forall_mem_cons.mp h
    rcases hv with rfl | ⟨doc, rfl⟩
    · exact ih hvs
    · exact congrArg (Except.map (doc :: ·)) (ih hvs)

/-- The first value of another shape is the one that is reported. -/
theorem mappings_of_misfit {before after : List Value} (hbefore : ∀ b ∈ before, Fits b)
    (hv : ¬ Fits v) :
    mappings origin (before ++ v :: after)
      = .error (fault origin ("expected a mapping, got " ++ v.kindName)) := by
  induction before with
  | nil =>
    cases v with
    | null => exact absurd (Or.inl rfl) hv
    | map doc => exact absurd (Or.inr ⟨doc, rfl⟩) hv
    | _ => rfl
  | cons b before ih =>
    obtain ⟨hb, hrest⟩ := List.forall_mem_cons.mp hbefore
    rcases hb with rfl | ⟨doc, rfl⟩
    · exact ih hrest
    · exact congrArg (Except.map (doc :: ·)) (ih hrest)

/-! ## Documents of a file -/

theorem documents_of_yields (h : Yields host origin vs) :
    documents host (Path.ofText origin)
      = (mappings (Path.ofText origin).text vs).mapError .reported >>= fun docs =>
          if docs.isEmpty then
            .error (.reported (fault (Path.ofText origin).text "no documents found"))
          else .ok docs := by
  obtain ⟨text, htext, hvalues⟩ := h
  have hparse : parse host (Path.ofText origin).text text
      = (mappings (Path.ofText origin).text vs).mapError .reported := by
    unfold parse
    rw [hvalues]
  unfold documents
  rw [htext, ← hparse]
  rfl

theorem documents_of_fits (h : Yields host origin vs) (hfits : ∀ v ∈ vs, Fits v)
    (hvalue : ∃ v ∈ vs, v ≠ .null) :
    documents host (Path.ofText origin) = .ok (vs.filterMap mapping?) := by
  obtain ⟨v, hv, hne⟩ := hvalue
  obtain ⟨doc, rfl⟩ := (hfits v hv).resolve_left hne
  have hdoc : doc ∈ vs.filterMap mapping? := List.mem_filterMap.mpr ⟨_, hv, rfl⟩
  rw [documents_of_yields h, mappings_of_fits hfits]
  exact if_neg (by simpa using List.ne_nil_of_mem hdoc)

/-! ## Single mappings -/

theorem passes_map_iff : Passes limits (.map doc) ↔ ∃ rules, Adds limits doc rules := by
  constructor
  · intro h
    by_cases hrole : IsRole (.map doc)
    · obtain ⟨q, hq⟩ := h.role hrole
      exact ⟨q.rules, .role hq⟩
    · refine ⟨[], .other (Bool.eq_false_iff.mpr (mt isRole_map_iff.mpr hrole)) ?_⟩
      refine Option.eq_none_iff_forall_not_mem.mpr fun o ho => ?_
      obtain ⟨k, hk, ho⟩ := obstacle?_kindOf_iff.mp ho
      cases ho.symm.trans (h.other hrole doc k rfl hk)
  · rintro ⟨rules, h⟩
    refine ⟨Or.inr ⟨doc, rfl⟩, fun hrole => ?_, fun hrole => ?_⟩
    · cases h with
      | role hq => exact ⟨_, hq⟩
      | other hother => cases hother.symm.trans (isRole_map_iff.mp hrole)
    · cases h with
      | role hq => exact absurd (isRole_map_iff.mpr (isRole_of_ofManifest hq)) hrole
      | other _ hshown =>
        rintro _ k ⟨⟩ hk
        refine Option.eq_none_iff_forall_not_mem.mpr fun o ho => ?_
        cases hshown.symm.trans (obstacle?_kindOf_iff.mpr ⟨k, hk, ho⟩)

theorem contribution_of_stops (h : Stops limits origin (.map doc) r) :
    contribution limits origin doc = .error r := by
  generalize hv : Value.map doc = v at h
  cases h with
  | role hrole hr =>
    subst hv
    rw [contribution_of_role (isRole_map_iff.mp hrole), map_eq_error]
    unfold requestOf
    rw [hr]
    rfl
  | other hdoc hrole hk ho =>
    subst hv
    cases hdoc
    have hother : isRole doc = false := Bool.eq_false_iff.mpr (mt isRole_map_iff.mpr hrole)
    exact contribution_eq_defect.mpr (.kind hother (obstacle?_kindOf_iff.mpr ⟨_, hk, ho⟩))

/-- What fits and does not pass stops the loading. -/
theorem exists_stops (origin : String) (hfits : Fits v) (h : ¬ Passes limits v) :
    ∃ r, Stops limits origin v r := by
  by_cases hrole : IsRole v
  · cases hq : ofManifest limits v with
    | ok q => exact absurd ⟨hfits, fun _ => ⟨q, hq⟩, fun hother => absurd hrole hother⟩ h
    | error r => exact ⟨_, .role hrole hq⟩
  · have hshown : ¬ KindShown limits v :=
      fun hshown => h ⟨hfits, fun hrole' => absurd hrole' hrole, fun _ => hshown⟩
    unfold KindShown at hshown
    push Not at hshown
    obtain ⟨doc, k, hv, hk, ho⟩ := hshown
    obtain ⟨o, ho⟩ := Option.ne_none_iff_exists'.mp ho
    exact ⟨_, .other hv hrole hk ho⟩

/-! ## Granted rules -/

/-- The rules of the roles among some values: every value passes, there is a role, and all roles
    are read, in order. -/
structure GrantedBy (limits : Value.Limits) (vs : List Value) (rules : List Rule) : Prop where
  /-- no value ends the loading -/
  passes : ∀ v ∈ vs, Passes limits v
  /-- there is a role -/
  role : ∃ v ∈ vs, IsRole v
  /-- the rules are those of all requests, one after the other -/
  requests : ∃ qs, List.Forall₂ (fun v q => ofManifest limits v = .ok q) (vs.filter IsRole) qs
    ∧ rules = qs.flatMap Request.rules

/-- The refusals of a stream of values. Each goes with what is true of the values then, so no
    two of them compete. -/
inductive RefusedBy (limits : Value.Limits) (origin : String) (vs : List Value) :
    Refusal → Prop where
  /-- a value of another shape, the first one, whatever the roles are like -/
  | shape {before after : List Value} {v : Value} (hsplit : vs = before ++ v :: after)
      (hbefore : ∀ b ∈ before, Fits b) (hv : ¬ Fits v) :
      RefusedBy limits origin vs
        (.reported (fault (Path.ofText origin).text ("expected a mapping, got " ++ v.kindName)))
  /-- no value at all -/
  | empty (hnull : ∀ v ∈ vs, v = .null) :
      RefusedBy limits origin vs
        (.reported (fault (Path.ofText origin).text "no documents found"))
  /-- the first mapping that does not pass -/
  | stopped {r : Refusal} (hfits : ∀ v ∈ vs, Fits v)
      (hfirst : First (Passes limits) (fun v => Stops limits origin v r) vs) :
      RefusedBy limits origin vs r
  /-- mappings that pass, but no role -/
  | noRole (hpasses : ∀ v ∈ vs, Passes limits v) (hvalue : ∃ v ∈ vs, v ≠ .null)
      (hrole : ¬ ∃ v ∈ vs, IsRole v) :
      RefusedBy limits origin vs
        (.reported (fault origin "no Role or ClusterRole document found"))

/-- Where every value passes, the mappings add the rules of the roles. -/
theorem exists_adds (hpasses : ∀ v ∈ vs, Passes limits v)
    (hqs : List.Forall₂ (fun v q => ofManifest limits v = .ok q) (vs.filter IsRole) qs) :
    ∃ parts, List.Forall₂ (Adds limits) (vs.filterMap mapping?) parts
      ∧ qs.flatMap Request.rules = parts.flatten := by
  induction vs generalizing qs with
  | nil =>
    cases hqs
    exact ⟨[], .nil, rfl⟩
  | cons v vs ih =>
    obtain ⟨hv, hvs⟩ := List.forall_mem_cons.mp hpasses
    by_cases hrole : IsRole v
    · obtain ⟨doc, k, rfl, _⟩ := id hrole
      rw [List.filter_cons_of_pos (by simpa using hrole)] at hqs
      obtain ⟨q, qs', hq, hqs', rfl⟩ := List.forall₂_cons_left_iff.mp hqs
      obtain ⟨parts, hparts, heq⟩ := ih hvs hqs'
      refine ⟨q.rules :: parts, .cons (.role hq) hparts, ?_⟩
      rw [List.flatMap_cons, List.flatten_cons, heq]
    · rw [List.filter_cons_of_neg (by simpa using hrole)] at hqs
      obtain ⟨parts, hparts, heq⟩ := ih hvs hqs
      rcases hv.fits with rfl | ⟨doc, rfl⟩
      · exact ⟨parts, hparts, heq⟩
      · obtain ⟨rules, hadds⟩ := passes_map_iff.mp hv
        cases hadds with
        | role hq => exact absurd (isRole_map_iff.mpr (isRole_of_ofManifest hq)) hrole
        | other hother hshown => exact ⟨[] :: parts, .cons (.other hother hshown) hparts, heq⟩

/-! ## What a file ends in -/

theorem granted_of_documents (hdocs : documents host (Path.ofText origin) = .ok docs) :
    (granted host origin).2 = (grantedOf host.limits origin docs).2 := by
  rw [granted_snd, hdocs]
  rfl

theorem granted_of_documents_error (hdocs : documents host (Path.ofText origin) = .error r) :
    (granted host origin).2 = .error r := by
  rw [granted_snd, hdocs]
  rfl

theorem granted_of_grantedBy (h : Yields host origin vs) (hrules : GrantedBy host.limits vs rules) :
    (granted host origin).2 = .ok rules := by
  obtain ⟨hpasses, hrole, qs, hqs, rfl⟩ := hrules
  obtain ⟨parts, hparts, heq⟩ := exists_adds hpasses hqs
  have hvalue : ∃ v ∈ vs, v ≠ .null := by
    obtain ⟨v, hv, doc, _, rfl, _⟩ := hrole
    exact ⟨_, hv, nofun⟩
  have hdocs := documents_of_fits h (fun v hv => (hpasses v hv).fits) hvalue
  exact granted_eq_ok.mpr ⟨_, parts, hdocs, any_isRole_iff.mpr hrole, hparts, heq⟩

theorem exists_contribution_of_passes (origin : String) (hpasses : ∀ v ∈ vs, Passes limits v) :
    ∀ doc ∈ vs.filterMap mapping?, ∃ p, contribution limits origin doc = .ok p := by
  intro doc hdoc
  obtain ⟨v, hv, hmap⟩ := List.mem_filterMap.mp hdoc
  cases v <;> cases hmap
  exact passes_contribution_iff.mpr (passes_map_iff.mp (hpasses _ hv))

/-- The first value that does not pass is the first mapping that adds nothing. -/
theorem mapM_contribution_of_first
    (hfirst : First (Passes limits) (fun v => Stops limits origin v r) vs) :
    (vs.filterMap mapping?).mapM (contribution limits origin) = .error r := by
  obtain ⟨before, v, after, rfl, hbefore, hstops⟩ := hfirst
  obtain ⟨doc, rfl⟩ : ∃ doc, v = .map doc := by
    cases hstops with
    | role hrole =>
      obtain ⟨doc, _, rfl, _⟩ := hrole
      exact ⟨doc, rfl⟩
    | other hv => exact ⟨_, hv⟩
  have hmappings : (before ++ .map doc :: after).filterMap mapping?
      = before.filterMap mapping? ++ doc :: after.filterMap mapping? := by
    rw [List.filterMap_append]
    rfl
  rw [hmappings, mapM_eq_error]
  exact ⟨_, doc, _, rfl, exists_contribution_of_passes origin hbefore,
    contribution_of_stops hstops⟩

theorem granted_of_refusedBy (h : Yields host origin vs)
    (hr : RefusedBy host.limits origin vs r) : (granted host origin).2 = .error r := by
  cases hr with
  | shape hsplit hbefore hv =>
    refine granted_of_documents_error ?_
    rw [documents_of_yields h, hsplit, mappings_of_misfit hbefore hv]
    rfl
  | empty hnull =>
    have hmappings : mappings (Path.ofText origin).text vs = .ok [] := by
      rw [mappings_of_fits fun v hv => Or.inl (hnull v hv), List.filterMap_eq_nil_iff.mpr]
      intro v hv
      rw [hnull v hv]
      rfl
    refine granted_of_documents_error ?_
    rw [documents_of_yields h, hmappings]
    rfl
  | stopped hfits hfirst =>
    have hvalue : ∃ v ∈ vs, v ≠ .null := by
      obtain ⟨v, hv, hstops⟩ := hfirst.exists_mem
      refine ⟨v, hv, ?_⟩
      rintro rfl
      cases hstops with
      | role hrole => obtain ⟨_, _, ⟨⟩, _⟩ := hrole
      | other hmap => cases hmap
    rw [granted_of_documents (documents_of_fits h hfits hvalue), grantedOf_snd,
      mapM_contribution_of_first hfirst]
    rfl
  | noRole hpasses hvalue hrole =>
    have hdocs := documents_of_fits h (fun v hv => (hpasses v hv).fits) hvalue
    obtain ⟨parts, hparts⟩ := exists_forall₂_iff.mpr (exists_contribution_of_passes origin hpasses)
    rw [granted_of_documents hdocs, grantedOf_snd, mapM_eq_ok.mpr hparts]
    exact if_neg (mt any_isRole_iff.mp hrole)

/-- There is no third outcome. -/
theorem grantedBy_or_refusedBy (limits : Value.Limits) (origin : String) (vs : List Value) :
    (∃ rules, GrantedBy limits vs rules) ∨ ∃ r, RefusedBy limits origin vs r := by
  -- shapes come before the rest, and what does not pass before the lack of a role
  by_cases hfits : ∀ v ∈ vs, Fits v
  · by_cases hpasses : ∀ v ∈ vs, Passes limits v
    · by_cases hrole : ∃ v ∈ vs, IsRole v
      · have hread : ∀ v ∈ vs.filter IsRole, ∃ q, ofManifest limits v = .ok q := by
          intro v hv
          obtain ⟨hmem, hv⟩ := List.mem_filter.mp hv
          exact (hpasses v hmem).role (of_decide_eq_true hv)
        obtain ⟨qs, hqs⟩ := exists_forall₂_iff.mpr hread
        exact Or.inl ⟨_, hpasses, hrole, qs, hqs, rfl⟩
      · by_cases hnull : ∀ v ∈ vs, v = .null
        · exact Or.inr ⟨_, .empty hnull⟩
        · have hvalue : ∃ v ∈ vs, v ≠ .null := by simpa using hnull
          exact Or.inr ⟨_, .noRole hpasses hvalue hrole⟩
    · obtain ⟨before, v, after, hsplit, hbefore, hv⟩ := exists_first_not hpasses
      obtain ⟨r, hr⟩ := exists_stops origin (hfits v (by simp [hsplit])) hv
      exact Or.inr ⟨r, .stopped hfits ⟨before, v, after, hsplit, hbefore, hr⟩⟩
  · obtain ⟨before, v, after, hsplit, hbefore, hv⟩ := exists_first_not hfits
    exact Or.inr ⟨_, .shape hsplit hbefore hv⟩

/-- **The rules of a file are those of all its roles.** -/
theorem granted_eq_ok_iff (h : Yields host origin vs) :
    (granted host origin).2 = .ok rules ↔ GrantedBy host.limits vs rules := by
  refine ⟨fun hok => ?_, granted_of_grantedBy h⟩
  -- the loader ends in one way only, so the other outcomes are not those of these values
  rcases grantedBy_or_refusedBy host.limits origin vs with ⟨rules', hrules⟩ | ⟨r, hr⟩
  · cases hok.symm.trans (granted_of_grantedBy h hrules)
    exact hrules
  · cases hok.symm.trans (granted_of_refusedBy h hr)

/-- **A file is refused for one reason.** -/
theorem granted_eq_error_iff (h : Yields host origin vs) :
    (granted host origin).2 = .error r ↔ RefusedBy host.limits origin vs r := by
  refine ⟨fun herror => ?_, granted_of_refusedBy h⟩
  rcases grantedBy_or_refusedBy host.limits origin vs with ⟨rules, hrules⟩ | ⟨r', hr⟩
  · cases herror.symm.trans (granted_of_grantedBy h hrules)
  · cases herror.symm.trans (granted_of_refusedBy h hr)
    exact hr

/-- What cannot be read as values grants nothing. -/
theorem exists_yields_of_granted (h : (granted host origin).2 = .ok rules) :
    ∃ vs, Yields host origin vs := by
  obtain ⟨docs, _, hdocs, _⟩ := granted_eq_ok.mp h
  obtain ⟨_, text, htext, hparse⟩ := documents_eq_ok.mp hdocs
  cases hvalues : host.documents text with
  | error f =>
    unfold parse at hparse
    rw [hvalues] at hparse
    cases hparse
  | ok vs => exact ⟨vs, text, htext, hvalues⟩

/-! ## Wording -/

/-- A role is refused as invalid, not for its kind. -/
theorem IsRole.message (hv : IsRole v) (h : ofManifest limits v = .error (.reported e)) :
    ∃ s, e.message = "Invalid " ++ s := by
  obtain ⟨doc, k, rfl, hk⟩ := hv
  rw [ofManifest_map, roleKind?_kindOf_iff.mpr hk] at h
  cases hmetadata : metadataOf doc with
  | error d =>
    simp only [hmetadata] at h
    cases h
  | ok metadata =>
    simp only [hmetadata, ofRoleDocument_eq, mapError_eq_error] at h
    obtain ⟨faults, _, he⟩ := h
    obtain ⟨s, rfl⟩ := exists_of_invalid he
    exact ⟨s, rfl⟩

/-- The reasons that a manifest is refused for. -/
theorem RefusedBy.reason {path reason : String} {details : Fields}
    (h : RefusedBy limits origin vs (.reported (.manifest path reason details))) :
    (∃ s, reason = "expected a mapping, got " ++ s) ∨ reason = "no documents found"
      ∨ (∃ s, reason = "Invalid " ++ s)
      ∨ reason = "no Role or ClusterRole document found" ∧ ¬ ∃ v ∈ vs, IsRole v := by
  generalize hr : Refusal.reported (.manifest path reason details) = r at h
  cases h with
  | shape =>
    cases hr
    exact Or.inl ⟨_, rfl⟩
  | empty =>
    cases hr
    exact Or.inr (Or.inl rfl)
  | stopped hfits hfirst =>
    obtain ⟨v, hv, hstops⟩ := hfirst.exists_mem
    cases hstops with
    | @role refusal hrole herror =>
      cases refusal <;> cases hr
      exact Or.inr (Or.inr (Or.inl (hrole.message herror)))
    | other => cases hr
  | noRole hpasses hvalue hrole =>
    cases hr
    exact Or.inr (Or.inr (Or.inr ⟨rfl, hrole⟩))

theorem RefusedBy.reason_ne_unsupported {path reason : String} {details : Fields}
    (h : RefusedBy limits origin vs (.reported (.manifest path reason details))) (s : String) :
    reason ≠ "Unsupported manifest kind" ++ s := by
  intro hs
  have hhead := congrArg (·.toList.head?) hs
  rcases h.reason with ⟨_, rfl⟩ | rfl | ⟨_, rfl⟩ | ⟨rfl, _⟩ <;> simp at hhead

theorem RefusedBy.reason_ne_missing {path reason : String} {details : Fields}
    (h : RefusedBy limits origin vs (.reported (.manifest path reason details)))
    (hrole : ∃ v ∈ vs, IsRole v) : reason ≠ "no Role or ClusterRole document found" := by
  intro hs
  have hlist := congrArg String.toList hs
  rcases h.reason with ⟨_, rfl⟩ | rfl | ⟨_, rfl⟩ | ⟨rfl, hnone⟩
  · simp at hlist
  · simp at hlist
  · simp at hlist
  · exact hnone hrole

/-! ## Streams within streams -/

/-- The second stream is the first with values in between that are passed over. -/
inductive Padded (limits : Value.Limits) : List Value → List Value → Prop where
  /-- no value -/
  | nil : Padded limits [] []
  /-- a value of both streams -/
  | keep (v : Value) {vs ws : List Value} (h : Padded limits vs ws) :
      Padded limits (v :: vs) (v :: ws)
  /-- a value in between -/
  | pad {v : Value} {vs ws : List Value} (hv : PassedOver limits v) (h : Padded limits vs ws) :
      Padded limits vs (v :: ws)

theorem PassedOver.passes (h : PassedOver limits v) : Passes limits v :=
  ⟨h.fits, fun hrole => absurd hrole h.other, fun _ => h.shown⟩

theorem Padded.passes_iff (h : Padded limits vs ws) :
    (∀ v ∈ ws, Passes limits v) ↔ ∀ v ∈ vs, Passes limits v := by
  induction h with
  | nil => rfl
  | keep v _ ih => rw [List.forall_mem_cons, List.forall_mem_cons, ih]
  | pad hv _ ih =>
    rw [List.forall_mem_cons, ih]
    exact and_iff_right hv.passes

theorem Padded.filter_isRole (h : Padded limits vs ws) : ws.filter IsRole = vs.filter IsRole := by
  induction h with
  | nil => rfl
  | keep v _ ih => rw [List.filter_cons, List.filter_cons, ih]
  | pad hv _ ih =>
    rw [List.filter_cons_of_neg (by simpa using hv.other), ih]

/-- The rules depend on the roles only. -/
theorem GrantedBy.of_same_roles (h : GrantedBy limits vs rules)
    (hpasses : ∀ w ∈ ws, Passes limits w) (hroles : ws.filter IsRole = vs.filter IsRole) :
    GrantedBy limits ws rules := by
  obtain ⟨_, ⟨v, hv, hrole⟩, hrequests⟩ := h
  have hmem : v ∈ ws.filter IsRole := by
    rw [hroles]
    exact List.mem_filter.mpr ⟨hv, decide_eq_true hrole⟩
  rw [← hroles] at hrequests
  exact ⟨hpasses, ⟨v, (List.mem_filter.mp hmem).1, hrole⟩, hrequests⟩

/-- Documents that are passed over change nothing. -/
theorem Padded.grantedBy_iff (h : Padded limits vs ws) :
    GrantedBy limits vs rules ↔ GrantedBy limits ws rules := by
  constructor
  · intro hvs
    exact hvs.of_same_roles (h.passes_iff.mpr hvs.passes) h.filter_isRole
  · intro hws
    exact hws.of_same_roles (h.passes_iff.mp hws.passes) h.filter_isRole.symm

/-- Streams that follow each other grant their rules one after the other. -/
theorem GrantedBy.append (h : GrantedBy limits vs rules) (h' : GrantedBy limits ws rules') :
    GrantedBy limits (vs ++ ws) (rules ++ rules') := by
  obtain ⟨hpasses, ⟨v, hv, hrole⟩, qs, hqs, rfl⟩ := h
  obtain ⟨hpasses', _, qs', hqs', rfl⟩ := h'
  refine ⟨List.forall_mem_append.mpr ⟨hpasses, hpasses'⟩,
    ⟨v, List.mem_append_left ws hv, hrole⟩, qs ++ qs', ?_, List.flatMap_append.symm⟩
  rw [List.filter_append]
  exact List.rel_append hqs hqs'

/-! ## Main theorem -/

theorem exists_grantedBy_iff : (∃ rules, GrantedBy limits vs rules) ↔
    (∀ v ∈ vs, Fits v) ∧ (∃ v ∈ vs, IsRole v)
      ∧ (∀ v ∈ vs, IsRole v → ∃ q, ofManifest limits v = .ok q)
      ∧ ∀ v ∈ vs, ¬ IsRole v → KindShown limits v := by
  constructor
  · rintro ⟨_, hpasses, hrole, _⟩
    exact ⟨fun v hv => (hpasses v hv).fits, hrole, fun v hv => (hpasses v hv).role,
      fun v hv => (hpasses v hv).other⟩
  · rintro ⟨hfits, hrole, hread, hother⟩
    have hread' : ∀ v ∈ vs.filter IsRole, ∃ q, ofManifest limits v = .ok q := by
      simpa only [List.mem_filter, decide_eq_true_eq, and_imp] using hread
    obtain ⟨qs, hqs⟩ := exists_forall₂_iff.mpr hread'
    exact ⟨_, fun v hv => ⟨hfits v hv, hread v hv, hother v hv⟩, hrole, qs, hqs, rfl⟩

/-- **Rules are granted all or not at all.** The values in a file grant rules
    just when each is absent or a mapping, one is a role, every role can be
    read and the kind of every other mapping can be shown; the rules are
    then those of all roles, one after the other. In every other case the
    file is refused, for the one reason that fits it: never for the kind of
    a role, and never for the lack of one where there is one. Values that
    are passed over make no difference, and a stream made of two grants the
    rules of both. -/
theorem granted_is_all_or_nothing (limits : Value.Limits) :
    (∀ host origin vs, host.limits = limits → Yields host origin vs →
      ((∃ rules, (granted host origin).2 = .ok rules) ↔
        (∀ v ∈ vs, Fits v) ∧ (∃ v ∈ vs, IsRole v)
          ∧ (∀ v ∈ vs, IsRole v → ∃ q, ofManifest limits v = .ok q)
          ∧ ∀ v ∈ vs, ¬ IsRole v → KindShown limits v)
      ∧ (∀ rules, (granted host origin).2 = .ok rules → ∃ qs,
        List.Forall₂ (fun v q => ofManifest limits v = .ok q) (vs.filter IsRole) qs
          ∧ rules = qs.flatMap Request.rules)
      ∧ (∀ r, (granted host origin).2 = .error r ↔ RefusedBy limits origin vs r)
      ∧ ∀ e, (granted host origin).2 = .error (.reported e) → ∃ path reason details,
        e = .manifest path reason details ∧ Path.ofText path = Path.ofText origin
          ∧ (∀ s, reason ≠ "Unsupported manifest kind" ++ s)
          ∧ ((∃ v ∈ vs, IsRole v) → reason ≠ "no Role or ClusterRole document found"))
    ∧ (∀ host origin rules, (granted host origin).2 = .ok rules →
      ∃ vs, Yields host origin vs)
    ∧ (∀ host origin vs host' origin' ws rules,
      host.limits = limits → Yields host origin vs →
      host'.limits = limits → Yields host' origin' ws → Padded limits vs ws →
      ((granted host origin).2 = .ok rules ↔ (granted host' origin').2 = .ok rules))
    ∧ ∀ host origin vs rules host' origin' vs' rules' host'' origin'',
      host.limits = limits → Yields host origin vs → (granted host origin).2 = .ok rules →
      host'.limits = limits → Yields host' origin' vs' →
      (granted host' origin').2 = .ok rules' →
      host''.limits = limits → Yields host'' origin'' (vs ++ vs') →
      (granted host'' origin'').2 = .ok (rules ++ rules') := by
  refine ⟨?_, ?_, ?_, ?_⟩
  · rintro host origin vs rfl h
    refine ⟨?_, ?_, ?_, ?_⟩
    · simp only [granted_eq_ok_iff h]
      exact exists_grantedBy_iff
    · intro rules hrules
      exact ((granted_eq_ok_iff h).mp hrules).requests
    · intro r
      exact granted_eq_error_iff h
    · intro e he
      obtain ⟨path, reason, details, rfl, hpath⟩ := granted_reported he
      have hr := (granted_eq_error_iff h).mp he
      exact ⟨path, reason, details, rfl, hpath, hr.reason_ne_unsupported, hr.reason_ne_missing⟩
  · intro host origin rules hrules
    exact exists_yields_of_granted hrules
  · rintro host origin vs host' origin' ws rules rfl h hlimits h' hpadded
    rw [granted_eq_ok_iff h, granted_eq_ok_iff h', hlimits]
    exact hpadded.grantedBy_iff
  · rintro host origin vs rules host' origin' vs' rules' host'' origin'' rfl h hrules
      hlimits h' hrules' hlimits' h''
    rw [granted_eq_ok_iff h] at hrules
    rw [granted_eq_ok_iff h', hlimits] at hrules'
    rw [granted_eq_ok_iff h'', hlimits']
    exact hrules.append hrules'

/-- A host on which every file holds the same text. -/
def sameText (text : String) : Host :=
  Files.host ⟨fun _ => .ok text.toUTF8.toList⟩

theorem yields_sameText {cs : List Char}
    (hcs : Text.Utf8.decodeFrom 0 text.toUTF8.toList = .ok cs)
    (hvalues : Yaml.documents (String.ofList (unifyBreaks cs)) = .ok vs) :
    Yields (sameText text) "role.yaml" vs :=
  ⟨_, readText_eq_ok.mpr ⟨by decide, _, _, rfl, hcs, rfl⟩, hvalues⟩

/-- A role with one rule. -/
def oneRole : Value := .map [(.text "rules", .list [.map [(.text "verbs", .list [.text "get"])]])]

/-- A document of another kind. -/
def pod : Value := .map [(.text "kind", .text "Pod")]

/-- A role that is refused. -/
def torn : Value := .map [(.text "rules", .text "all")]

/-- The text of the role with one rule. -/
def oneText : String := "\"rules\":\n- \"verbs\": [\"get\"]\n"

theorem yields_one : Yields (sameText oneText) "role.yaml" [oneRole] :=
  yields_sameText (by cbv) (by cbv)

theorem yields_padded :
    Yields (sameText ("---\n---\n\"kind\": \"Pod\"\n---\n" ++ oneText)) "role.yaml"
      [.null, pod, oneRole] :=
  yields_sameText (by cbv) (by cbv)

theorem yields_twice :
    Yields (sameText (oneText ++ "---\n" ++ oneText)) "role.yaml" [oneRole, oneRole] :=
  yields_sameText (by cbv) (by cbv)

theorem yields_torn :
    Yields (sameText (oneText ++ "---\n\"rules\": \"all\"\n")) "role.yaml" [oneRole, torn] :=
  yields_sameText (by cbv) (by cbv)

theorem passedOver_null (limits : Value.Limits) : PassedOver limits .null := by
  refine ⟨Or.inl rfl, by decide, nofun⟩

theorem passedOver_pod (limits : Value.Limits) : PassedOver limits pod := by
  refine ⟨Or.inr ⟨_, rfl⟩, by decide, ?_⟩
  rintro _ k ⟨⟩ ⟨⟩
  exact Value.obstacle?_text limits "Pod"

theorem padded_one (limits : Value.Limits) : Padded limits [oneRole] [.null, pod, oneRole] :=
  .pad (passedOver_null limits) (.pad (passedOver_pod limits) (.keep oneRole .nil))

theorem passes_oneRole (limits : Value.Limits) : Passes limits oneRole :=
  ⟨Or.inr ⟨_, rfl⟩, fun _ => ⟨_, rfl⟩, fun hother => absurd (by decide) hother⟩

theorem grantedBy_one (limits : Value.Limits) :
    GrantedBy limits [oneRole] [⟨[], [], ["get"], []⟩] := by
  refine ⟨?_, ⟨oneRole, List.mem_singleton_self oneRole, by decide⟩,
    [⟨"", none, "Role", [⟨[], [], ["get"], []⟩]⟩], .cons rfl .nil, rfl⟩
  intro v hv
  cases List.mem_singleton.mp hv
  exact passes_oneRole limits

theorem refusedBy_torn (h : ofManifest limits torn = .error r) :
    RefusedBy limits "role.yaml" [oneRole, torn] (blame "role.yaml" r) := by
  refine .stopped ?_ ⟨[oneRole], torn, [], rfl, ?_, .role (by decide) h⟩
  · intro v hv
    rcases List.mem_pair.mp hv with rfl | rfl <;> exact Or.inr ⟨_, rfl⟩
  · intro v hv
    cases List.mem_singleton.mp hv
    exact passes_oneRole limits

/-- The theorem at a role, at the same role behind documents that are passed over, at a file with
    the role twice, and at a role that is refused behind one that is not. -/
theorem granted_is_all_or_nothing_at_streams :
    let padded := sameText ("---\n---\n\"kind\": \"Pod\"\n---\n" ++ oneText)
    let twice := sameText (oneText ++ "---\n" ++ oneText)
    let broken := sameText (oneText ++ "---\n\"rules\": \"all\"\n")
    let rule : Rule := ⟨[], [], ["get"], []⟩
    Yields (sameText oneText) "role.yaml" [oneRole]
      ∧ (granted (sameText oneText) "role.yaml").2 = .ok [rule]
      ∧ Yields padded "role.yaml" [.null, pod, oneRole]
      ∧ Padded {} [oneRole] [.null, pod, oneRole]
      ∧ (granted padded "role.yaml").2 = .ok [rule]
      ∧ Yields twice "role.yaml" [oneRole, oneRole]
      ∧ (granted twice "role.yaml").2 = .ok [rule, rule]
      ∧ Yields broken "role.yaml" [oneRole, torn]
      ∧ ∃ e, ofManifest {} torn = .error (.reported e)
        ∧ (granted broken "role.yaml").2
          = .error (.reported (.manifest "role.yaml" e.message e.details))
        ∧ e.message ≠ "no Role or ClusterRole document found" := by
  intro padded twice broken rule
  obtain ⟨hvalues, -, hpadded, happend⟩ := granted_is_all_or_nothing {}
  obtain ⟨-, -, hrefused, hwording⟩ := hvalues _ _ _ rfl yields_torn
  have hone : (granted (sameText oneText) "role.yaml").2 = .ok [rule] :=
    granted_of_grantedBy yields_one (grantedBy_one {})
  have hbroken := (hrefused _).mpr (refusedBy_torn rfl)
  obtain ⟨path, reason, details, he, -, -, hreason⟩ := hwording _ hbroken
  obtain ⟨rfl, rfl, rfl⟩ := Error.manifest.inj he
  have hrole : ∃ v ∈ [oneRole, torn], IsRole v := ⟨torn, by simp, by decide⟩
  refine ⟨yields_one, hone, yields_padded, padded_one {}, ?_, yields_twice, ?_, yields_torn,
    _, rfl, hbroken, hreason hrole⟩
  · exact (hpadded _ _ _ _ _ _ _ rfl yields_one rfl yields_padded (padded_one {})).mp hone
  · exact happend _ _ _ _ _ _ _ _ _ _ rfl yields_one hone rfl yields_one hone rfl yields_twice

/-- A host on which every text has these documents. -/
def listing (vs : List Value) : Host where
  files := ⟨fun _ => .ok []⟩
  documents _ := .ok vs

/-- A document of another kind, whose kind is the least integer with too many digits. -/
def nameless : Value := .map [(.text "kind", .int (Nat.pow 10 longestNumeral))]

/-- A mapping of another kind is not always passed over: one whose kind cannot be shown refuses
    the file, although all its documents are mappings and its role can be read. -/
theorem long_kind_refuses_file :
    let vs := [nameless, oneRole]
    Yields (listing vs) "role.yaml" vs ∧ (∀ v ∈ vs, Fits v) ∧ (∃ v ∈ vs, IsRole v)
      ∧ (∀ v ∈ vs, IsRole v → ∃ q, ofManifest {} v = .ok q)
      ∧ (granted (listing vs) "role.yaml").2 = .error (.defect (.longInteger longestNumeral)) := by
  intro vs
  have hyields : Yields (listing vs) "role.yaml" vs :=
    ⟨_, readText_eq_ok.mpr ⟨by decide, [], [], rfl, rfl, rfl⟩, rfl⟩
  have hother : ¬ IsRole nameless := by decide
  have hfits : ∀ v ∈ vs, Fits v := by
    intro v hv
    rcases List.mem_pair.mp hv with rfl | rfl <;> exact Or.inr ⟨_, rfl⟩
  refine ⟨hyields, hfits, ⟨oneRole, by simp [vs], by decide⟩, ?_, ?_⟩
  · intro v hv hrole
    rcases List.mem_pair.mp hv with rfl | rfl
    · exact absurd hrole hother
    · exact (passes_oneRole {}).role hrole
  · refine granted_of_refusedBy hyields (.stopped hfits ⟨[], nameless, [oneRole], rfl, nofun, ?_⟩)
    exact .other rfl hother rfl (Value.obstacle?_pow (Nat.le_refl _))

end Manifest

end RoleGuard

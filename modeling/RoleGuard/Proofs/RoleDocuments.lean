import RoleGuard.Proofs.Grammar
import RoleGuard.Proofs.Loading
import RoleGuard.Proofs.Lossless

/-! # Role Documents

    A request is read from a document of a role: its kind, the name and the
    namespace in its metadata, and its rules. As for rules, what a document
    states and what is wrong with it are first said without the reader.

    * **Absence and null**: an absent kind or name has a default, while a
      null one is refused; for the namespace and the rules null is absence.
    * **Refusal**: a document of another kind is refused as a whole, and a
      role with faults is refused with all of them: name, namespace, then
      the rules by position and field. No rule is ever left out instead.
    * **Escape**: the refusal shows the kind of the document or the name of
      the role, and where that cannot be shown, a defect takes its place.
    * **Round trip**: the document of a request is read back as the request.
-/

namespace RoleGuard

/-! ## Single values -/

theorem Value.IsJson.of_plain {v : Value} (h : v.Plain) : v.IsJson := by
  induction h with
  | null => exact .null
  | bool b => exact .bool b
  | int n => exact .int n
  | text s => exact .text s
  | list _ ih => exact .list ih
  | map hkeys _ ih => exact .map hkeys ih

namespace Schema

variable {α : Type} {P : Value → α → Prop} {faultsAt : List Step → Value → List Fault}
  {location : List Step} {default s : String} {o : Option Value} {n : Option String} {xs : List α}

/-- The value of a field is a text. An absent field has a default, a null one has none. -/
@[mk_iff]
inductive TextOr (default : String) : Option Value → String → Prop where
  /-- the field is not there -/
  | absent : TextOr default none default
  /-- the field is a text -/
  | text (s : String) : TextOr default (some (.text s)) s

/-- The value of a field is a text, or there is none: an absent field and null are the same. -/
@[mk_iff]
inductive MaybeText : Option Value → Option String → Prop where
  /-- the field is not there -/
  | absent : MaybeText none none
  /-- the field is null -/
  | null : MaybeText (some .null) none
  /-- the field is a text -/
  | text (s : String) : MaybeText (some (.text s)) (some s)

theorem exists_textOr_iff :
    (∃ s, TextOr default o s) ↔ ∀ v, o = some v → ∃ s, v = .text s := by
  cases o <;> simp [textOr_iff]

theorem exists_maybeText_iff :
    (∃ n, MaybeText o n) ↔ ∀ v, o = some v → v = .null ∨ ∃ s, v = .text s := by
  cases o with
  | none => simp [maybeText_iff]
  | some v =>
    simp only [maybeText_iff, reduceCtorEq, false_and, false_or, Option.some.injEq, forall_eq']
    constructor
    · rintro ⟨n, ⟨hnull, _⟩ | ⟨s, hs, _⟩⟩
      · exact Or.inl hnull
      · exact Or.inr ⟨s, hs⟩
    · rintro (hnull | ⟨s, hs⟩)
      · exact ⟨none, Or.inl ⟨hnull, rfl⟩⟩
      · exact ⟨some s, Or.inr ⟨s, hs, rfl⟩⟩

/-- The faults of a field that should be a text if it is there. -/
def textOrFaults (location : List Step) : Option Value → List Fault
  | none => []
  | some v => textFaults location v

/-- The faults of a field that should be a text if it is there and not null. -/
def maybeTextFaults (location : List Step) : Option Value → List Fault
  | none => []
  | some .null => []
  | some v => textFaults location v

/-- A text with a default is read like the default itself where it is absent. -/
theorem text_getD_eq_ok_iff (hjson : ∀ v, o = some v → v.IsJson) :
    text location (o.getD (.text default)) = .ok s ↔ TextOr default o s := by
  cases o with
  | none => simp [textOr_iff, text, eq_comm]
  | some v => simp [textOr_iff, (follows_text (hjson v rfl)).eq_ok_iff]

theorem faults_text_getD (hjson : ∀ v, o = some v → v.IsJson) :
    (text location (o.getD (.text default))).faults = textOrFaults location o := by
  cases o with
  | none => rfl
  | some v => exact (follows_text (hjson v rfl)).faults location

/-- The reader of a text that may be null. -/
def maybeText (location : List Step) : Value → Checked (Option String)
  | .null => .ok none
  | v => (text location v).map some

theorem maybeText_getD_eq_ok_iff (hjson : ∀ v, o = some v → v.IsJson) :
    maybeText location (o.getD .null) = .ok n ↔ MaybeText o n := by
  cases o with
  | none => simp [maybeText_iff, maybeText, eq_comm]
  | some v =>
    cases hjson v rfl <;>
      simp [maybeText_iff, maybeText, Except.map, text, Checked.fault, eq_comm]

theorem faults_maybeText_getD (hjson : ∀ v, o = some v → v.IsJson) :
    (maybeText location (o.getD .null)).faults = maybeTextFaults location o := by
  cases o with
  | none => rfl
  | some v => cases hjson v rfl <;> rfl

theorem optional_maybeText (v : Value) {name : String} {entries : List (Value × Value)}
    (h : Value.lookup name entries = some v) :
    optional none (fun l v => (text l v).map some) location [name] entries
      = maybeText (location ++ [.field name]) v := by
  unfold optional
  rw [spelling_single, h]
  cases v <;> rfl

/-- A list that is read as null where it is absent lists the same. -/
theorem lists_getD_iff : Lists P (some (o.getD .null)) xs ↔ Lists P o xs := by
  cases o <;> simp [lists_iff]

theorem listFaults_getD :
    listFaults faultsAt location (some (o.getD .null)) = listFaults faultsAt location o := by
  cases o <;> rfl

end Schema

/-! ## Documents of roles -/

namespace Request

open Schema

variable {limits : Value.Limits} {entries metadata : List (Value × Value)} {k : String}
  {q : Request} {v : Value} {rules : List Rule} {o : Defect}

/-- The document is of this kind, and it is a kind of role. -/
def HasKind (entries : List (Value × Value)) (k : String) : Prop :=
  TextOr "Role" (Value.lookup "kind" entries) k ∧ k ∈ roleKinds

/-- The fields of the metadata of a document, if they are there. -/
def metadataFields (entries : List (Value × Value)) : List (Value × Value) :=
  match Value.lookup "metadata" entries with
  | some (.map fields) => fields
  | _ => []

/-- The metadata of the document is absent, counts as absent, or is a mapping. -/
def MetadataFits (d : Value) : Prop :=
  ∀ v, d.field? "metadata" = some v → v.isEmpty = true ∨ ∃ fields, v = .map fields

/-- The document has the parts of the request at their places. Other keys may be there too. -/
structure StatedBy (q : Request) (entries : List (Value × Value)) : Prop where
  /-- the kind of role -/
  kind : HasKind entries q.kind
  /-- the name in the metadata -/
  name : TextOr "" (Value.lookup "name" (metadataFields entries)) q.name
  /-- the namespace in the metadata -/
  namespaceName : MaybeText (Value.lookup "namespace" (metadataFields entries)) q.namespaceName
  /-- the rules, one for each value -/
  rules : Lists (fun v r => Rule.ofValue? v = .ok r) (Value.lookup "rules" entries) q.rules

/-- The document states a request, whichever it is. -/
structure IsRoleManifest (entries : List (Value × Value)) : Prop where
  /-- the kind is absent or a kind of role -/
  kind : Value.lookup "kind" entries = none
    ∨ ∃ k ∈ roleKinds, Value.lookup "kind" entries = some (.text k)
  /-- the name is absent or a text -/
  name : ∀ v, Value.lookup "name" (metadataFields entries) = some v → ∃ s, v = .text s
  /-- the namespace is absent, null or a text -/
  namespaceName : ∀ v, Value.lookup "namespace" (metadataFields entries) = some v →
    v = .null ∨ ∃ s, v = .text s
  /-- the rules are absent, null or a list of what rules are read from -/
  rules : MayList (fun v => ∃ r, Rule.ofValue? v = .ok r) (Value.lookup "rules" entries)

/-- The faults of a document that should state a request. -/
def faultsOf (entries : List (Value × Value)) : List Fault :=
  textOrFaults [.field "name"] (Value.lookup "name" (metadataFields entries))
    ++ maybeTextFaults [.field "namespace"] (Value.lookup "namespace" (metadataFields entries))
    ++ listFaults Rule.faultsAt [.field "rules"] (Value.lookup "rules" entries)

/-- The refusal of the document has to show something that cannot be shown: the kind of what is no
    role, or the name of a role. -/
inductive Unshown (limits : Value.Limits) (entries : List (Value × Value)) : Defect → Prop where
  /-- the kind, which is there since an absent one is that of a role -/
  | kind {v : Value} {o : Defect} (hkind : ¬ ∃ k, HasKind entries k)
      (hv : Value.lookup "kind" entries = some v) (ho : v.obstacle? limits = some o) :
      Unshown limits entries o
  /-- the name, which is there since an absent one is an empty text -/
  | name {v : Value} {o : Defect} (hkind : ∃ k, HasKind entries k)
      (hv : Value.lookup "name" (metadataFields entries) = some v)
      (ho : v.obstacle? limits = some o) : Unshown limits entries o

/-- The document that a request is written as. -/
def toDocument (q : Request) : Value :=
  .record [("kind", .text q.kind),
    ("metadata", .record [("name", .text q.name),
      ("namespace", (q.namespaceName.map Value.text).getD .null)]),
    ("rules", .list (q.rules.map Rule.toValue))]

/-! ## Kind and metadata -/

theorem roleKind?_eq_some_iff : roleKind? v = some k ↔ v = .text k ∧ k ∈ roleKinds := by
  cases v with
  | text s =>
    simp only [roleKind?, List.contains_iff_mem, Option.ite_none_right_eq_some,
      Option.some.injEq, Value.text.injEq]
    constructor
    · rintro ⟨hs, rfl⟩
      exact ⟨rfl, hs⟩
    · rintro ⟨rfl, hs⟩
      exact ⟨hs, rfl⟩
  | _ => simp [roleKind?]

theorem roleKind?_kindOf_iff : roleKind? (kindOf entries) = some k ↔ HasKind entries k := by
  unfold HasKind kindOf
  rw [roleKind?_eq_some_iff]
  cases Value.lookup "kind" entries <;> simp [textOr_iff, eq_comm]

theorem exists_hasKind_iff : (∃ k, HasKind entries k) ↔ Value.lookup "kind" entries = none
    ∨ ∃ k ∈ roleKinds, Value.lookup "kind" entries = some (.text k) := by
  unfold HasKind
  cases Value.lookup "kind" entries with
  | none => simp [textOr_iff, roleKinds]
  | some v => simp [textOr_iff, and_comm]

theorem metadataOf_of_fits (h : MetadataFits (.map entries)) :
    metadataOf entries = .ok (metadataFields entries) := by
  unfold metadataOf metadataFields
  cases hv : Value.lookup "metadata" entries with
  | none => rfl
  | some v =>
    rcases h v hv with hempty | ⟨fields, rfl⟩
    · cases v with
      | map fields => rfl
      | _ => simp [hempty]
    · rfl

theorem isJson_metadataFields (hd : Value.IsJson (.map entries)) :
    Value.IsJson (.map (metadataFields entries)) := by
  unfold metadataFields
  split
  · rename_i fields hfields
    exact hd.of_lookup hfields
  · simp

/-! ## Reading the fields -/

/-- The fields that the parts of a document are handed on as. -/
def fieldsOf (k : String) (metadata entries : List (Value × Value)) : List (Value × Value) :=
  [(.text "name", (Value.lookup "name" metadata).getD (.text "")),
    (.text "namespace", (Value.lookup "namespace" metadata).getD .null),
    (.text "kind", .text k),
    (.text "rules", (Value.lookup "rules" entries).getD .null)]

theorem spelling_rules : spelling ["rules"] (fieldsOf k metadata entries)
    = (some ((Value.lookup "rules" entries).getD .null)).map fun v => ("rules", v) :=
  spelling_single "rules" (fieldsOf k metadata entries)

theorem isJson_rules (hd : Value.IsJson (.map entries)) :
    ∀ v, some ((Value.lookup "rules" entries).getD .null) = some v → v.IsJson := by
  rintro v ⟨⟩
  cases hrules : Value.lookup "rules" entries with
  | none => exact .null
  | some rules => exact hd.of_lookup hrules

theorem readRules_eq_ok_iff (hd : Value.IsJson (.map entries)) :
    readRules [] (fieldsOf k metadata entries) = .ok rules
      ↔ Lists (fun v r => Rule.ofValue? v = .ok r) (Value.lookup "rules" entries) rules := by
  unfold readRules
  rw [optional_eq_ok_iff (fun _ => Rule.follows_readAt) spelling_rules (isJson_rules hd),
    lists_getD_iff]

theorem faults_readRules (hd : Value.IsJson (.map entries)) :
    (readRules [] (fieldsOf k metadata entries)).faults
      = listFaults Rule.faultsAt [.field "rules"] (Value.lookup "rules" entries) := by
  unfold readRules
  rw [faults_optional (fun _ => Rule.follows_readAt) spelling_rules (isJson_rules hd),
    listFaults_getD]
  rfl

/-- The four fields are read side by side, and the kind is there already. -/
theorem readFields_fieldsOf (k : String) (metadata entries : List (Value × Value)) :
    readFields (fieldsOf k metadata entries)
      = (Checked.both (text [.field "name"] ((Value.lookup "name" metadata).getD (.text ""))) <|
          Checked.both
            (maybeText [.field "namespace"] ((Value.lookup "namespace" metadata).getD .null)) <|
          Checked.both (.ok k) (readRules [] (fieldsOf k metadata entries))).map
          fun p => ⟨p.1, p.2.1, p.2.2.1, p.2.2.2⟩ := by
  unfold readFields
  rw [required_of_lookup (v := (Value.lookup "name" metadata).getD (.text "")) rfl,
    optional_maybeText ((Value.lookup "namespace" metadata).getD .null) rfl,
    defaulted_of_lookup (v := .text k) rfl]
  rfl

theorem readFields_eq_ok_iff (hd : Value.IsJson (.map entries)) :
    readFields (fieldsOf k (metadataFields entries) entries) = .ok q
      ↔ q.kind = k ∧ TextOr "" (Value.lookup "name" (metadataFields entries)) q.name
        ∧ MaybeText (Value.lookup "namespace" (metadataFields entries)) q.namespaceName
        ∧ Lists (fun v r => Rule.ofValue? v = .ok r) (Value.lookup "rules" entries) q.rules := by
  have hmetadata := isJson_metadataFields hd
  simp only [readFields_fieldsOf, map_eq_ok, Checked.both_eq_ok, readRules_eq_ok_iff hd,
    text_getD_eq_ok_iff fun _ => hmetadata.of_lookup,
    maybeText_getD_eq_ok_iff fun _ => hmetadata.of_lookup, Except.ok.injEq]
  constructor
  · rintro ⟨p, ⟨hname, hnamespace, rfl, hrules⟩, rfl⟩
    exact ⟨rfl, hname, hnamespace, hrules⟩
  · rintro ⟨rfl, hname, hnamespace, hrules⟩
    exact ⟨(_, _, _, _), ⟨hname, hnamespace, rfl, hrules⟩, rfl⟩

theorem faults_readFields (hd : Value.IsJson (.map entries)) :
    (readFields (fieldsOf k (metadataFields entries) entries)).faults = faultsOf entries := by
  have hmetadata := isJson_metadataFields hd
  rw [readFields_fieldsOf, Checked.faults_map, Checked.faults_both, Checked.faults_both,
    Checked.faults_both, faults_text_getD fun _ => hmetadata.of_lookup,
    faults_maybeText_getD fun _ => hmetadata.of_lookup, faults_readRules hd]
  exact (List.append_assoc _ _ _).symm

/-! ## Reading a document -/

theorem HasKind.unique {k' : String} (h : HasKind entries k) (h' : HasKind entries k') :
    k = k' := by
  have hsome := (roleKind?_kindOf_iff.mpr h).symm.trans (roleKind?_kindOf_iff.mpr h')
  exact Option.some.inj hsome

theorem roleKind?_kindOf_eq_none (h : ¬ ∃ k, HasKind entries k) :
    roleKind? (kindOf entries) = none := by
  cases hkind : roleKind? (kindOf entries) with
  | none => rfl
  | some k => exact absurd ⟨k, roleKind?_kindOf_iff.mp hkind⟩ h

theorem ofRoleDocument_eq (limits : Value.Limits) (k : String)
    (metadata entries : List (Value × Value)) :
    ofRoleDocument limits k metadata entries
      = (readFields (fieldsOf k metadata entries)).mapError
          (invalid limits k (nameOf metadata)) := by
  rfl

/-- A role is read from its fields, and refused for its faults. -/
theorem ofManifest_of_hasKind (limits : Value.Limits) (hk : HasKind entries k)
    (hfits : MetadataFits (.map entries)) :
    ofManifest limits (.map entries)
      = (readFields (fieldsOf k (metadataFields entries) entries)).mapError
          (invalid limits k (nameOf (metadataFields entries))) := by
  rw [ofManifest_map, roleKind?_kindOf_iff.mpr hk, metadataOf_of_fits hfits]
  exact ofRoleDocument_eq limits k _ entries

theorem ofManifest_of_no_kind (limits : Value.Limits) (h : ¬ ∃ k, HasKind entries k) :
    ofManifest limits (.map entries) = .error (unsupported limits (kindOf entries)) := by
  rw [ofManifest_map, roleKind?_kindOf_eq_none h]

/-- **A role is read exactly when its document states it.** -/
theorem ofManifest_eq_ok_iff (hd : Value.IsJson (.map entries))
    (hfits : MetadataFits (.map entries)) :
    ofManifest limits (.map entries) = .ok q ↔ q.StatedBy entries := by
  by_cases hkind : ∃ k, HasKind entries k
  · obtain ⟨k, hk⟩ := hkind
    rw [ofManifest_of_hasKind limits hk hfits, mapError_eq_ok, readFields_eq_ok_iff hd]
    constructor
    · rintro ⟨rfl, hname, hnamespace, hrules⟩
      exact ⟨hk, hname, hnamespace, hrules⟩
    · intro h
      exact ⟨h.kind.unique hk, h.name, h.namespaceName, h.rules⟩
  · constructor
    · intro h
      rw [ofManifest_of_no_kind limits hkind] at h
      cases h
    · intro h
      exact absurd ⟨q.kind, h.kind⟩ hkind

theorem ofManifest_eq_ok_iff_exists {d : Value} (hd : d.IsJson) (hfits : MetadataFits d) :
    ofManifest limits d = .ok q ↔ ∃ entries, d = .map entries ∧ q.StatedBy entries := by
  cases d with
  | map entries =>
    rw [ofManifest_eq_ok_iff hd hfits]
    constructor
    · intro h
      exact ⟨entries, rfl, h⟩
    · rintro ⟨_, ⟨⟩, h⟩
      exact h
  | _ =>
    constructor
    · intro h
      cases h
    · rintro ⟨_, ⟨⟩, _⟩

/-- A role that is not read is refused with all its faults. -/
theorem ofManifest_of_faults (hd : Value.IsJson (.map entries))
    (hfits : MetadataFits (.map entries))
    (hk : HasKind entries k) (hrefused : ∀ q, ofManifest limits (.map entries) ≠ .ok q) :
    ofManifest limits (.map entries)
      = .error (invalid limits k (nameOf (metadataFields entries)) (faultsOf entries)) := by
  rw [ofManifest_of_hasKind limits hk hfits] at hrefused ⊢
  have hread : ∀ q, readFields (fieldsOf k (metadataFields entries) entries) ≠ .ok q := by
    intro q hq
    exact hrefused q (mapError_eq_ok.mpr hq)
  rw [Checked.eq_error_faults hread, faults_readFields hd]
  rfl

/-! ## What a refusal shows -/

/-- A kind with an obstacle is there, since an absent one is a text. -/
theorem obstacle?_kindOf_iff :
    (kindOf entries).obstacle? limits = some o
      ↔ ∃ v, Value.lookup "kind" entries = some v ∧ v.obstacle? limits = some o := by
  unfold kindOf
  cases Value.lookup "kind" entries <;> simp

/-- So is a name. -/
theorem obstacle?_nameOf_iff :
    (nameOf metadata).obstacle? limits = some o
      ↔ ∃ v, Value.lookup "name" metadata = some v ∧ v.obstacle? limits = some o := by
  unfold nameOf
  cases Value.lookup "name" metadata <;> simp

theorem isRole_iff_hasKind : Manifest.isRole entries = true ↔ ∃ k, HasKind entries k := by
  simp only [Manifest.isRole_iff, roleKind?_kindOf_iff]

/-- With metadata that fits, nothing but what cannot be shown breaks a document. -/
theorem breaksDocument_iff (hfits : MetadataFits (.map entries)) :
    Manifest.BreaksDocument limits entries o ↔ Unshown limits entries o := by
  constructor
  · intro h
    cases h with
    | kind hrole ho =>
      obtain ⟨v, hv, ho⟩ := obstacle?_kindOf_iff.mp ho
      refine .kind (fun hkind => ?_) hv ho
      cases hrole.symm.trans (isRole_iff_hasKind.mpr hkind)
    | metadata _ hv hmap hempty =>
      rcases hfits _ hv with hempty' | ⟨fields, hfields⟩
      · cases hempty.symm.trans hempty'
      · exact absurd hfields (hmap fields)
    | name hrole hfields ho =>
      obtain rfl := Except.ok.inj ((metadataOf_of_fits hfits).symm.trans hfields)
      obtain ⟨v, hv, ho⟩ := obstacle?_nameOf_iff.mp ho
      exact .name (isRole_iff_hasKind.mp hrole) hv ho
  · intro h
    cases h with
    | kind hkind hv ho =>
      have hrole : Manifest.isRole entries = false :=
        Bool.eq_false_iff.mpr (mt isRole_iff_hasKind.mp hkind)
      exact .kind hrole (obstacle?_kindOf_iff.mpr ⟨_, hv, ho⟩)
    | name hkind hv ho =>
      exact .name (isRole_iff_hasKind.mpr hkind) (metadataOf_of_fits hfits)
        (obstacle?_nameOf_iff.mpr ⟨_, hv, ho⟩)

/-- **A defect takes the place of a refusal exactly where something cannot be shown.** -/
theorem ofManifest_eq_defect_iff {d : Value} (hfits : MetadataFits d) :
    ofManifest limits d = .error (.defect o)
      ↔ ∃ entries, d = .map entries ∧ Unshown limits entries o := by
  cases d with
  | map entries =>
    rw [Manifest.ofManifest_eq_defect, breaksDocument_iff hfits]
    constructor
    · intro h
      exact ⟨entries, rfl, h⟩
    · rintro ⟨_, ⟨⟩, h⟩
      exact h
  | _ =>
    constructor
    · intro h
      cases h
    · rintro ⟨_, ⟨⟩, _⟩

theorem exists_of_unsupported {v : Value} {e : Error} (h : unsupported limits v = .reported e) :
    ∃ message details, e = .validation message details := by
  obtain ⟨-, rfl⟩ := refusal_eq_reported.mp h
  exact ⟨_, _, rfl⟩

theorem exists_of_invalid {name : Value} {faults : List Fault} {e : Error}
    (h : invalid limits k name faults = .reported e) :
    ∃ s, e = .validation ("Invalid " ++ s)
      [("kind", .text k), ("errors", .list (faults.map Fault.toValue))] := by
  obtain ⟨-, rfl⟩ := refusal_eq_reported.mp h
  simp only [String.append_assoc]
  exact ⟨_, rfl⟩

/-- The entries tell of all faults, in their order. -/
theorem told_faultsOf (entries : List (Value × Value)) :
    List.Forall₂ Fault.ToldBy (faultsOf entries) ((faultsOf entries).map Fault.toValue) := by
  have htold : AllTold (faultsOf entries) := by
    unfold faultsOf
    simp only [allTold_append]
    refine ⟨⟨?_, ?_⟩, allTold_listFaults Rule.allTold_faultsAt _ _⟩
    · cases Value.lookup "name" (metadataFields entries) with
      | none => exact nofun
      | some v => exact allTold_textFaults _ v
    · unfold maybeTextFaults
      split
      · exact nofun
      · exact nofun
      · exact allTold_textFaults _ _
  rw [List.forall₂_map_right_iff, List.forall₂_same]
  exact htold

/-- What is reported of a document is that it is invalid, and of a role all its faults. -/
theorem ofManifest_reported {d : Value} {e : Error} (hd : d.IsJson) (hfits : MetadataFits d)
    (h : ofManifest limits d = .error (.reported e)) :
    ∃ message details, e = .validation message details
      ∧ ∀ entries k, d = .map entries → HasKind entries k →
        ∃ errors, details = [("kind", .text k), ("errors", .list errors)]
          ∧ List.Forall₂ Fault.ToldBy (faultsOf entries) errors := by
  cases d with
  | map entries =>
    by_cases hkind : ∃ k, HasKind entries k
    · obtain ⟨k, hk⟩ := hkind
      have hrefused : ∀ q, ofManifest limits (.map entries) ≠ .ok q := by simp [h]
      rw [ofManifest_of_faults hd hfits hk hrefused] at h
      obtain ⟨message, rfl⟩ := exists_of_invalid (Except.error.inj h)
      refine ⟨_, _, rfl, ?_⟩
      rintro _ k' ⟨⟩ hk'
      rw [hk.unique hk']
      exact ⟨_, rfl, told_faultsOf entries⟩
    · rw [ofManifest_of_no_kind limits hkind] at h
      obtain ⟨message, details, rfl⟩ := exists_of_unsupported (Except.error.inj h)
      refine ⟨_, _, rfl, ?_⟩
      rintro _ k ⟨⟩ hk
      exact absurd ⟨k, hk⟩ hkind
  | _ =>
    cases h
    exact ⟨_, _, rfl, nofun⟩

/-- The parts are independent of each other, so a request is stated when each part is there. -/
theorem exists_statedBy_iff : (∃ q : Request, q.StatedBy entries) ↔ IsRoleManifest entries := by
  constructor
  · rintro ⟨q, h⟩
    exact ⟨exists_hasKind_iff.mp ⟨_, h.kind⟩, exists_textOr_iff.mp ⟨_, h.name⟩,
      exists_maybeText_iff.mp ⟨_, h.namespaceName⟩, exists_lists_iff.mp ⟨_, h.rules⟩⟩
  · intro h
    obtain ⟨k, hk⟩ := exists_hasKind_iff.mpr h.kind
    obtain ⟨name, hname⟩ := exists_textOr_iff.mpr h.name
    obtain ⟨namespaceName, hnamespace⟩ := exists_maybeText_iff.mpr h.namespaceName
    obtain ⟨rules, hrules⟩ := exists_lists_iff.mpr h.rules
    exact ⟨⟨name, namespaceName, k, rules⟩, hk, hname, hnamespace, hrules⟩

/-! ## Round trip -/

theorem isJson_toDocument (q : Request) : q.toDocument.IsJson := by
  have hrules : ∀ r ∈ q.rules, r.toValue.IsJson := fun r _ => .of_plain r.plain_toValue
  cases hnamespace : q.namespaceName <;>
    simpa [toDocument, Value.record, hnamespace] using hrules

/-- **The document of a request is read back as the request.** -/
theorem ofManifest_toDocument (limits : Value.Limits) (h : q.kind ∈ roleKinds) :
    ofManifest limits q.toDocument = .ok q := by
  have hjson := isJson_toDocument q
  unfold toDocument Value.record at hjson ⊢
  refine (ofManifest_eq_ok_iff hjson ?_).mpr ⟨⟨.text _, h⟩, .text _, ?_, .items ?_⟩
  · rintro v ⟨⟩
    exact Or.inr ⟨_, rfl⟩
  · cases q.namespaceName with
    | none => exact .null
    | some s => exact .text s
  · rw [List.forall₂_map_left_iff, List.forall₂_same]
    intro r _
    exact Rule.ofValue?_toValue r

/-! ## Main theorem -/

/-- **Role documents are read exactly.** From a document of JSON whose
    metadata is absent, empty or an object, the request that it states is
    read, with its kind, name and namespace and all its rules in order, and
    there is one just when kind, name, namespace and rules are each as they
    should be. Any other such document is refused: by a defect exactly where
    the refusal would show what cannot be shown, and else as invalid, a role
    with all its faults in their order, each with its type, place and
    message. The document of a request of these kinds is read back as the
    request. -/
theorem role_documents_are_read_exactly (limits : Value.Limits) :
    (∀ d : Value, d.IsJson → MetadataFits d →
      (∀ q, ofManifest limits d = .ok q ↔ ∃ entries, d = .map entries ∧ q.StatedBy entries)
      ∧ ((∃ q, ofManifest limits d = .ok q)
        ↔ ∃ entries, d = .map entries ∧ IsRoleManifest entries)
      ∧ (∀ o, ofManifest limits d = .error (.defect o)
        ↔ ∃ entries, d = .map entries ∧ Unshown limits entries o)
      ∧ ∀ e, ofManifest limits d = .error (.reported e) → ∃ message details,
        e = .validation message details
        ∧ ∀ entries k, d = .map entries → HasKind entries k →
          ∃ errors, details = [("kind", .text k), ("errors", .list errors)]
            ∧ List.Forall₂ Fault.ToldBy (faultsOf entries) errors)
    ∧ ∀ q : Request, q.kind ∈ roleKinds → ofManifest limits q.toDocument = .ok q := by
  refine ⟨?_, fun q => ofManifest_toDocument limits⟩
  intro d hd hfits
  have hread : ∀ q, ofManifest limits d = .ok q
      ↔ ∃ entries, d = .map entries ∧ q.StatedBy entries :=
    fun q => ofManifest_eq_ok_iff_exists hd hfits
  refine ⟨hread, ?_, fun o => ofManifest_eq_defect_iff hfits,
    fun e => ofManifest_reported hd hfits⟩
  simp only [hread, ← exists_statedBy_iff]
  constructor
  · rintro ⟨q, entries, hmap, hq⟩
    exact ⟨entries, hmap, q, hq⟩
  · rintro ⟨entries, hmap, q, hq⟩
    exact ⟨q, entries, hmap, hq⟩

/-- The theorem at a role with faults in its metadata and deep in its rules, of which the first
    could be read, and at a request that is written and read back. -/
theorem role_documents_are_read_exactly_at_faults :
    let d : Value := .record [("kind", .text "ClusterRole"),
      ("metadata", .record [("name", .null), ("namespace", .int 7)]),
      ("rules", .list [.record [("verbs", .texts ["get"])],
        .record [("verbs", .list [.text "get", .int 5])], .text "pods"])]
    let q : Request := ⟨"web", none, "Role", [⟨[""], ["pods"], ["get"], ["web"]⟩]⟩
    d.IsJson ∧ MetadataFits d
      ∧ (∃ e message errors, ofManifest {} d = .error (.reported e)
        ∧ e = .validation message [("kind", .text "ClusterRole"), ("errors", .list errors)]
        ∧ List.Forall₂ Fault.ToldBy [⟨[.field "name"], .text⟩, ⟨[.field "namespace"], .text⟩,
            ⟨[.field "rules", .item 1, .field "verbs", .item 1], .text⟩,
            ⟨[.field "rules", .item 2], .model .rule⟩] errors)
      ∧ q.kind ∈ roleKinds ∧ ofManifest {} q.toDocument = .ok q := by
  intro d q
  have hd : d.IsJson := by simp [d, Value.record, Value.texts]
  have hfits : MetadataFits d := by
    rintro v ⟨⟩
    exact Or.inr ⟨_, rfl⟩
  have hq : q.kind ∈ roleKinds := by decide
  obtain ⟨hread, hwritten⟩ := role_documents_are_read_exactly {}
  have hrefused : ∃ e, ofManifest {} d = .error (.reported e) := ⟨_, rfl⟩
  obtain ⟨e, he⟩ := hrefused
  obtain ⟨message, details, hinvalid, hdetails⟩ := (hread d hd hfits).2.2.2 e he
  obtain ⟨errors, rfl, htold⟩ := hdetails _ "ClusterRole" rfl ⟨.text _, by decide⟩
  exact ⟨hd, hfits, ⟨e, message, errors, he, hinvalid, htold⟩, hq, hwritten q hq⟩

/-- A role whose name is an integer. -/
def namedBy (n : Int) : Value :=
  .record [("kind", .text "Role"), ("metadata", .record [("name", .int n)]), ("rules", .list [])]

theorem isJson_namedBy (n : Int) : (namedBy n).IsJson := by
  simp [namedBy, Value.record]

theorem metadataFits_namedBy (n : Int) : MetadataFits (namedBy n) := by
  rintro v ⟨⟩
  exact Or.inr ⟨_, rfl⟩

theorem ofManifest_namedBy_pow (limits : Value.Limits) (k : Nat) (h : limits.digits ≤ k) :
    ofManifest limits (namedBy (Nat.pow 10 k)) = .error (.defect (.longInteger limits.digits)) :=
  (ofManifest_eq_defect_iff (metadataFits_namedBy _)).mpr
    ⟨_, rfl, .name ⟨"Role", .text _, by decide⟩ rfl (Value.obstacle?_pow h)⟩

/-- A role whose name is the least integer with too many digits is refused, but by no error. -/
theorem long_name_escapes :
    let d := namedBy (Nat.pow 10 longestNumeral)
    d.IsJson ∧ MetadataFits d ∧ ofManifest {} d = .error (.defect (.longInteger longestNumeral))
      ∧ ¬ ∃ e, ofManifest {} d = .error (.reported e) := by
  intro d
  have hescapes := ofManifest_namedBy_pow {} longestNumeral (Nat.le_refl _)
  refine ⟨isJson_namedBy _, metadataFits_namedBy _, hescapes, ?_⟩
  rintro ⟨e, he⟩
  cases hescapes.symm.trans he

end Request

end RoleGuard

import Mathlib.Data.List.Forall2
import Mathlib.Tactic.MkIffOfInductiveProp
import RoleGuard.Proofs.Steps
import RoleGuard.Rule.Reader

/-! # The Grammar of Rules

    What a rule can be read from, and what is wrong with anything else. Both
    are first said without the reader:

    * a document **states** a rule if it is a mapping and each field of the
      rule is absent, null or a list of texts, under the spelling of
      manifests or else under the one with underscores;
    * it has a **fault** for each field that is neither absent nor null nor a
      list, and for each item of a list that is no text.

    The reader finds exactly the rule that is stated, or exactly the faults,
    in the order of the fields and then of the items. Faults are counted
    through `Checked.both`, which loses none when both sides fail.
-/

namespace RoleGuard

/-! ## Documents of JSON -/

namespace Value

/-- The value can be written in JSON: there are no bytes, dates or sets in it, and its mappings are
    from texts. -/
inductive IsJson : Value → Prop where
  /-- no value -/
  | null : IsJson .null
  /-- a truth value -/
  | bool (b : Bool) : IsJson (.bool b)
  /-- an integer -/
  | int (n : Int) : IsJson (.int n)
  /-- a number with a fraction or an exponent -/
  | float (x : Float) : IsJson (.float x)
  /-- a text -/
  | text (s : String) : IsJson (.text s)
  /-- an array -/
  | list {items : List Value} (h : ∀ v ∈ items, IsJson v) : IsJson (.list items)
  /-- an object -/
  | map {entries : List (Value × Value)} (hkeys : ∀ e ∈ entries, ∃ s, e.1 = .text s)
      (h : ∀ e ∈ entries, IsJson e.2) : IsJson (.map entries)

attribute [simp] IsJson.null IsJson.bool IsJson.int IsJson.float IsJson.text

variable {key : String} {entries : List (Value × Value)} {items : List Value} {v : Value}

@[simp] theorem isJson_list_iff : IsJson (.list items) ↔ ∀ v ∈ items, IsJson v := by
  constructor
  · intro h
    cases h with
    | list hitems => exact hitems
  · exact .list

@[simp] theorem isJson_map_iff : IsJson (.map entries)
    ↔ (∀ e ∈ entries, ∃ s, e.1 = .text s) ∧ ∀ e ∈ entries, IsJson e.2 := by
  constructor
  · intro h
    cases h with
    | map hkeys hvalues => exact ⟨hkeys, hvalues⟩
  · rintro ⟨hkeys, hvalues⟩
    exact .map hkeys hvalues

theorem mem_of_lookup (h : lookup key entries = some v) : (.text key, v) ∈ entries := by
  fun_induction lookup key entries with
  | case1 => cases h
  | case2 w rest =>
    cases h
    exact List.mem_cons_self
  | case3 k w rest _ ih => exact List.mem_cons_of_mem _ (ih h)
  | case4 e rest _ ih => exact List.mem_cons_of_mem _ (ih h)

theorem IsJson.of_lookup (h : IsJson (.map entries)) (hv : lookup key entries = some v) :
    IsJson v :=
  (isJson_map_iff.mp h).2 _ (mem_of_lookup hv)

end Value

/-! ## Faults of readings -/

namespace Checked

variable {α β : Type} {a : Checked α} {b : Checked β}

/-- The faults that were found; a value has none. -/
def faults : Checked α → List Fault
  | .ok _ => []
  | .error fs => fs

@[simp] theorem faults_both : (both a b).faults = a.faults ++ b.faults := by
  cases a <;> cases b <;> simp [both, faults]

@[simp] theorem faults_map (f : α → β) : faults (a.map f) = a.faults := by
  cases a <;> rfl

theorem both_eq_ok {p : α × β} : both a b = .ok p ↔ a = .ok p.1 ∧ b = .ok p.2 := by
  cases a <;> cases b <;> simp [both, Prod.ext_iff]

/-- What is no value is a refusal with all the faults. -/
theorem eq_error_faults (h : ∀ x, a ≠ .ok x) : a = .error a.faults := by
  cases a with
  | ok x => exact absurd rfl (h x)
  | error fs => rfl

end Checked

/-! ## Faults as they are told -/

namespace Fault

/-- The type and the message of the error about a mismatch, for those that are found in documents
    of JSON. -/
inductive Worded : Mismatch → String → String → Prop where
  /-- something else than a text -/
  | text : Worded .text "string_type" "Input should be a valid string"
  /-- something else than an array -/
  | tuple : Worded .tuple "tuple_type" "Input should be a valid tuple"
  /-- something else than an object -/
  | rule : Worded (.model .rule) "model_type"
      "Input should be a valid dictionary or instance of PolicyRule"

/-- A step to a field is told by the name of the field, and one to an item by its position. -/
inductive Points : Step → Value → Prop where
  /-- to a field -/
  | field (name : String) : Points (.field name) (.text name)
  /-- to an item -/
  | item (index : Nat) : Points (.item index) (.int index)

/-- The entry of an error list tells of the fault: what it is, where, and in which words. -/
def ToldBy (f : Fault) (entry : Value) : Prop :=
  ∃ type message location, Worded f.mismatch type message
    ∧ List.Forall₂ Points f.location location
    ∧ entry = .map [(.text "type", .text type), (.text "loc", .list location),
        (.text "msg", .text message)]

variable {f : Fault} {m : Mismatch} {type message : String}

theorem Worded.code_eq (h : Worded m type message) : m.code = type ∧ m.message = message := by
  cases h <;> exact ⟨rfl, rfl⟩

theorem toldBy_toValue (h : Worded f.mismatch type message) : f.ToldBy f.toValue := by
  have hpoints : ∀ step ∈ f.location, Points step step.toValue := by
    intro step _
    cases step with
    | field name => exact .field name
    | item index => exact .item index
  refine ⟨type, message, f.location.map Step.toValue, h, ?_, ?_⟩
  · rw [List.forall₂_map_right_iff, List.forall₂_same]
    exact hpoints
  · obtain ⟨hcode, hmessage⟩ := h.code_eq
    rw [← hcode, ← hmessage]
    rfl

end Fault

/-! ## Lists in documents -/

namespace Schema

variable {α : Type} {read : List Step → Value → Checked α} {P : Value → α → Prop}
  {faultsAt : List Step → Value → List Fault} {location : List Step} {names : List String}
  {entries : List (Value × Value)} {key : String} {stated : Option Value} {vs : List Value}
  {xs : List α}

/-- The value of a field lists items; an absent field and null list none. -/
@[mk_iff]
inductive Lists (P : Value → α → Prop) : Option Value → List α → Prop where
  /-- the field is not there -/
  | absent : Lists P none []
  /-- the field is null -/
  | null : Lists P (some .null) []
  /-- the field is a list of as many values -/
  | items {vs : List Value} {xs : List α} (h : List.Forall₂ P vs xs) : Lists P (some (.list vs)) xs

/-- The faults of a field that should list items: that it is no list, or those of its items. -/
def listFaults (faultsAt : List Step → Value → List Fault) (location : List Step) :
    Option Value → List Fault
  | none => []
  | some .null => []
  | some (.list vs) => vs.zipIdx.flatMap fun p => faultsAt (location ++ [.item p.2]) p.1
  | some _ => [⟨location, .tuple⟩]

/-- The faults of a value that should be a text. -/
def textFaults (location : List Step) : Value → List Fault
  | .text _ => []
  | _ => [⟨location, .text⟩]

/-- At every place, the reader finds just what `P` says of the value, or just its faults. -/
structure Follows (read : List Step → Value → Checked α) (P : Value → α → Prop)
    (faultsAt : List Step → Value → List Fault) (v : Value) : Prop where
  /-- what is found -/
  eq_ok_iff (location : List Step) (x : α) : read location v = .ok x ↔ P v x
  /-- what is wrong -/
  faults (location : List Step) : (read location v).faults = faultsAt location v

/-- Every fault of these is told in its own words. -/
def AllTold (faults : List Fault) : Prop :=
  ∀ f ∈ faults, f.ToldBy f.toValue

theorem allTold_append {fs gs : List Fault} : AllTold (fs ++ gs) ↔ AllTold fs ∧ AllTold gs :=
  List.forall_mem_append

theorem allTold_textFaults (location : List Step) (v : Value) :
    AllTold (textFaults location v) := by
  cases v with
  | text s => exact nofun
  | _ =>
    intro f hf
    obtain rfl := List.mem_singleton.mp hf
    exact Fault.toldBy_toValue .text

theorem allTold_listFaults (h : ∀ location v, AllTold (faultsAt location v))
    (location : List Step) (stated : Option Value) :
    AllTold (listFaults faultsAt location stated) := by
  intro f hf
  unfold listFaults at hf
  split at hf
  · cases hf
  · cases hf
  · obtain ⟨p, _, hf⟩ := List.mem_flatMap.mp hf
    exact h _ _ f hf
  · obtain rfl := List.mem_singleton.mp hf
    exact Fault.toldBy_toValue .tuple

theorem follows_text {v : Value} (h : v.IsJson) :
    Follows text (fun v s => v = .text s) textFaults v := by
  constructor
  · intro location x
    cases h <;> simp [text, Checked.fault]
  · intro location
    cases h <;> rfl

theorem itemsFrom_eq_ok_iff (h : ∀ v ∈ vs, Follows read P faultsAt v) (i : Nat) :
    itemsFrom read location i vs = .ok xs ↔ List.Forall₂ P vs xs := by
  induction vs generalizing i xs with
  | nil =>
    rw [List.forall₂_nil_left_iff]
    exact ⟨fun hok => (Except.ok.inj hok).symm, fun hnil => congrArg Except.ok hnil.symm⟩
  | cons v vs ih =>
    obtain ⟨hv, hvs⟩ := List.forall_mem_cons.mp h
    rw [itemsFrom, map_eq_ok, List.forall₂_cons_left_iff]
    simp only [Checked.both_eq_ok, hv.eq_ok_iff, ih hvs]
    constructor
    · rintro ⟨p, ⟨hx, hxs⟩, rfl⟩
      exact ⟨p.1, p.2, hx, hxs, rfl⟩
    · rintro ⟨x, xs', hx, hxs, rfl⟩
      exact ⟨(x, xs'), ⟨hx, hxs⟩, rfl⟩

theorem faults_itemsFrom (h : ∀ v ∈ vs, Follows read P faultsAt v) (i : Nat) :
    (itemsFrom read location i vs).faults
      = (vs.zipIdx i).flatMap fun p => faultsAt (location ++ [.item p.2]) p.1 := by
  induction vs generalizing i with
  | nil => rfl
  | cons v vs ih =>
    obtain ⟨hv, hvs⟩ := List.forall_mem_cons.mp h
    rw [itemsFrom, Checked.faults_map, Checked.faults_both, hv.faults, ih hvs,
      List.zipIdx_cons, List.flatMap_cons]

theorem spelling_single (name : String) (entries : List (Value × Value)) :
    spelling [name] entries = (Value.lookup name entries).map fun v => (name, v) := by
  unfold spelling
  cases h : Value.lookup name entries <;> simp [h]

/-- Of two spellings the second counts only where the first is absent. -/
theorem spelling_pair (first second : String) (entries : List (Value × Value)) :
    spelling [first, second] entries
      = (Value.lookup (if (Value.lookup first entries).isSome then first else second) entries).map
          fun v => (if (Value.lookup first entries).isSome then first else second, v) := by
  unfold spelling
  cases h : Value.lookup first entries with
  | none => cases hsecond : Value.lookup second entries <;> simp [h, hsecond]
  | some v => simp [h]

/-- A field that may be absent or null lists what its value lists. -/
theorem optional_eq_ok_iff (hread : ∀ v, v.IsJson → Follows read P faultsAt v)
    (hspelling : spelling names entries = stated.map fun v => (key, v))
    (hjson : ∀ v, stated = some v → v.IsJson) :
    optional [] (items .tuple read) location names entries = .ok xs ↔ Lists P stated xs := by
  unfold optional
  rw [hspelling]
  cases stated with
  | none => simp [lists_iff, eq_comm]
  | some v =>
    cases hjson v rfl with
    | @list vs hitems =>
      have hitem : itemsFrom read (location ++ [.field key]) 0 vs = .ok xs ↔ List.Forall₂ P vs xs :=
        itemsFrom_eq_ok_iff (fun v hv => hread v (hitems v hv)) 0
      simpa [lists_iff, items] using hitem
    | _ => simp [lists_iff, items, Checked.fault, eq_comm]

theorem faults_optional (hread : ∀ v, v.IsJson → Follows read P faultsAt v)
    (hspelling : spelling names entries = stated.map fun v => (key, v))
    (hjson : ∀ v, stated = some v → v.IsJson) :
    (optional [] (items .tuple read) location names entries).faults
      = listFaults faultsAt (location ++ [.field key]) stated := by
  unfold optional
  rw [hspelling]
  cases stated with
  | none => rfl
  | some v =>
    cases hjson v rfl with
    | list hitems => exact faults_itemsFrom (fun v hv => hread v (hitems v hv)) 0
    | _ => rfl

/-- The value of a field is absent, null or a list of values that are accepted. -/
def MayList (A : Value → Prop) (stated : Option Value) : Prop :=
  ∀ v, stated = some v → v = .null ∨ ∃ vs, v = .list vs ∧ ∀ w ∈ vs, A w

theorem exists_lists_iff : (∃ xs, Lists P stated xs) ↔ MayList (fun v => ∃ x, P v x) stated := by
  constructor
  · rintro ⟨xs, h⟩ v rfl
    cases h with
    | null => exact Or.inl rfl
    | items h => exact Or.inr ⟨_, rfl, exists_forall₂_iff.mp ⟨xs, h⟩⟩
  · intro h
    cases stated with
    | none => exact ⟨[], .absent⟩
    | some v =>
      rcases h v rfl with rfl | ⟨vs, rfl, hvs⟩
      · exact ⟨[], .null⟩
      · obtain ⟨xs, hxs⟩ := exists_forall₂_iff.mpr hvs
        exact ⟨xs, .items hxs⟩

end Schema

/-! ## Fields of rules -/

namespace Rule

/-- The fields of a rule, in the order in which they are read. -/
inductive Field where
  /-- the API groups -/
  | apiGroups
  /-- the resource types -/
  | resources
  /-- the actions -/
  | verbs
  /-- the named instances -/
  | resourceNames
deriving DecidableEq, Repr

namespace Field

variable {f : Field} {entries : List (Value × Value)}

/-- All fields, in order. -/
def all : List Field := [apiGroups, resources, verbs, resourceNames]

/-- The spelling of the field in manifests. -/
def manifestName : Field → String
  | apiGroups => "apiGroups"
  | resources => "resources"
  | verbs => "verbs"
  | resourceNames => "resourceNames"

/-- The spelling of the field with underscores. -/
def plainName : Field → String
  | apiGroups => "api_groups"
  | resources => "resources"
  | verbs => "verbs"
  | resourceNames => "resource_names"

/-- The values of a rule in the field. -/
def values : Field → Rule → List String
  | apiGroups, r => r.apiGroups
  | resources, r => r.resources
  | verbs, r => r.verbs
  | resourceNames, r => r.resourceNames

/-- The spelling that a document uses. That of manifests hides the other one. -/
def key (f : Field) (entries : List (Value × Value)) : String :=
  if (Value.lookup f.manifestName entries).isSome then f.manifestName else f.plainName

/-- The value that a document has for the field. -/
def stated (f : Field) (entries : List (Value × Value)) : Option Value :=
  Value.lookup (f.key entries) entries

theorem forall_iff {P : Field → Prop} :
    (∀ f, P f) ↔ P apiGroups ∧ P resources ∧ P verbs ∧ P resourceNames := by
  constructor
  · intro h
    exact ⟨h _, h _, h _, h _⟩
  · rintro ⟨hgroups, hresources, hverbs, hnames⟩ f
    cases f with
    | apiGroups => exact hgroups
    | resources => exact hresources
    | verbs => exact hverbs
    | resourceNames => exact hnames

/-- The spellings that the reader looks for, in its order. -/
def names : Field → List String
  | apiGroups => ["apiGroups", "api_groups"]
  | resources => ["resources"]
  | verbs => ["verbs"]
  | resourceNames => ["resourceNames", "resource_names"]

/-- The spelling that is found first is the one that the document uses. -/
theorem spelling_names (f : Field) (entries : List (Value × Value)) :
    Schema.spelling f.names entries = (f.stated entries).map fun v => (f.key entries, v) := by
  unfold stated
  cases f with
  | apiGroups => exact Schema.spelling_pair _ _ entries
  | resources =>
    have hkey : resources.key entries = "resources" := ite_self _
    rw [hkey]
    exact Schema.spelling_single _ entries
  | verbs =>
    have hkey : verbs.key entries = "verbs" := ite_self _
    rw [hkey]
    exact Schema.spelling_single _ entries
  | resourceNames => exact Schema.spelling_pair _ _ entries

end Field

variable {r : Rule} {d : Value} {location : List Step} {entries : List (Value × Value)}
  {xs : List String}

/-- The document is a mapping that has all values of the rule in their fields. Other keys may
    be there too. -/
def StatedBy (r : Rule) (d : Value) : Prop :=
  ∃ entries, d = .map entries
    ∧ ∀ f : Field, Schema.Lists (fun v s => v = .text s) (f.stated entries) (f.values r)

/-- The faults of a document that should state a rule. -/
def faultsAt (location : List Step) : Value → List Fault
  | .map entries => Field.all.flatMap fun f =>
      Schema.listFaults Schema.textFaults (location ++ [.field (f.key entries)]) (f.stated entries)
  | _ => [⟨location, .model .rule⟩]

/-- The three kinds of faults are told in words of their own. -/
theorem allTold_faultsAt (location : List Step) (d : Value) :
    Schema.AllTold (faultsAt location d) := by
  intro f hf
  unfold faultsAt at hf
  split at hf
  · obtain ⟨field, _, hf⟩ := List.mem_flatMap.mp hf
    exact Schema.allTold_listFaults Schema.allTold_textFaults _ _ f hf
  · obtain rfl := List.mem_singleton.mp hf
    exact Fault.toldBy_toValue .rule

/-! ## Reading a rule -/

theorem readAxis_eq_ok_iff (hd : Value.IsJson (.map entries)) (f : Field) :
    readAxis location f.names entries = .ok xs
      ↔ Schema.Lists (fun v s => v = .text s) (f.stated entries) xs :=
  Schema.optional_eq_ok_iff (fun _ => Schema.follows_text) (f.spelling_names entries)
    fun _ => hd.of_lookup

theorem faults_readAxis (hd : Value.IsJson (.map entries)) (f : Field) :
    (readAxis location f.names entries).faults
      = Schema.listFaults Schema.textFaults (location ++ [.field (f.key entries)])
          (f.stated entries) :=
  Schema.faults_optional (fun _ => Schema.follows_text) (f.spelling_names entries)
    fun _ => hd.of_lookup

theorem readAt_map (location : List Step) (entries : List (Value × Value)) :
    readAt location (.map entries)
      = (Checked.both (readAxis location Field.apiGroups.names entries) <|
          Checked.both (readAxis location Field.resources.names entries) <|
          Checked.both (readAxis location Field.verbs.names entries)
            (readAxis location Field.resourceNames.names entries)).map
          fun p => ⟨p.1, p.2.1, p.2.2.1, p.2.2.2⟩ :=
  rfl

theorem readAt_eq_ok_iff (hd : d.IsJson) : readAt location d = .ok r ↔ r.StatedBy d := by
  unfold StatedBy
  cases d with
  | map entries =>
    simp only [readAt_map, map_eq_ok, Checked.both_eq_ok, readAxis_eq_ok_iff hd]
    constructor
    · rintro ⟨p, ⟨hgroups, hresources, hverbs, hnames⟩, rfl⟩
      exact ⟨entries, rfl, Field.forall_iff.mpr ⟨hgroups, hresources, hverbs, hnames⟩⟩
    · rintro ⟨_, hmap, hfields⟩
      cases hmap
      obtain ⟨hgroups, hresources, hverbs, hnames⟩ := Field.forall_iff.mp hfields
      exact ⟨(_, _, _, _), ⟨hgroups, hresources, hverbs, hnames⟩, rfl⟩
  | _ =>
    constructor
    · intro h
      cases h
    · rintro ⟨_, hmap, _⟩
      cases hmap

theorem faults_readAt (hd : d.IsJson) : (readAt location d).faults = faultsAt location d := by
  cases d with
  | map entries =>
    simp only [readAt_map, Checked.faults_map, Checked.faults_both, faults_readAxis hd]
    simp only [faultsAt, Field.all, List.flatMap_cons, List.flatMap_nil, List.append_nil]
  | _ => rfl

theorem ofValue?_eq_ok_iff (hd : d.IsJson) : ofValue? d = .ok r ↔ r.StatedBy d := by
  unfold ofValue?
  rw [mapError_eq_ok, readAt_eq_ok_iff hd]

/-- A rule is read at every place of a document as it is read by itself. -/
theorem follows_readAt (hd : d.IsJson) :
    Schema.Follows readAt (fun v r => ofValue? v = .ok r) faultsAt d where
  eq_ok_iff _ _ := (readAt_eq_ok_iff hd).trans (ofValue?_eq_ok_iff hd).symm
  faults _ := faults_readAt hd

/-- The fields are independent of each other, so a rule is stated when each field lists texts. -/
theorem exists_statedBy_iff :
    (∃ r : Rule, r.StatedBy d) ↔ ∃ entries, d = .map entries
      ∧ ∀ f : Field, Schema.MayList (fun v => ∃ s, v = .text s) (f.stated entries) := by
  simp only [← Schema.exists_lists_iff]
  constructor
  · rintro ⟨r, entries, rfl, hfields⟩
    exact ⟨entries, rfl, fun f => ⟨f.values r, hfields f⟩⟩
  · rintro ⟨entries, rfl, hfields⟩
    choose texts htexts using hfields
    refine ⟨⟨texts .apiGroups, texts .resources, texts .verbs, texts .resourceNames⟩,
      entries, rfl, fun f => ?_⟩
    cases f <;> exact htexts _

/-! ## Main theorem -/

/-- **The reader of rules follows its grammar.** From a document of JSON it
    reads the rule that the document states, with all values in order and
    repeated as they are, and there is one just when the document is an
    object and each field is absent, null or an array of texts, whatever
    other keys it has. Otherwise it lists the faults, each once: the one of
    a document that is no object, or those of the fields, where a field that
    is no array has one fault and an array one for each item that is no
    text. -/
theorem reading_follows_grammar {d : Value} (hd : d.IsJson) :
    (∀ r, ofValue? d = .ok r ↔ r.StatedBy d)
    ∧ ((∃ r, ofValue? d = .ok r) ↔ ∃ entries, d = .map entries
        ∧ ∀ f : Field, Schema.MayList (fun v => ∃ s, v = .text s) (f.stated entries))
    ∧ ((∀ r, ofValue? d ≠ .ok r) → ofValue? d = .error ⟨.rule, faultsAt [] d⟩) := by
  refine ⟨fun r => ofValue?_eq_ok_iff hd, ?_, ?_⟩
  · rw [← exists_statedBy_iff]
    exact exists_congr fun r => ofValue?_eq_ok_iff hd
  · intro hrefused
    have hread : ∀ r, readAt [] d ≠ .ok r := by
      intro r hr
      exact hrefused r ((ofValue?_eq_ok_iff hd).mpr ((readAt_eq_ok_iff hd).mp hr))
    unfold ofValue?
    rw [Checked.eq_error_faults hread, faults_readAt hd]
    rfl

/-- The theorem at an object with faults in three fields. The groups are read from the spelling
    of manifests although the other one would do, and null verbs are no fault. -/
theorem reading_follows_grammar_at_faults :
    let d : Value := .record [("api_groups", .texts ["apps"]),
      ("apiGroups", .list [.int 1, .text "", .null]), ("resources", .bool true), ("verbs", .null),
      ("resource_names", .list [.text "web", .list []]), ("nonResourceURLs", .float 0.5)]
    d.IsJson ∧ (∀ r, ofValue? d ≠ .ok r)
      ∧ ofValue? d = .error ⟨.rule,
        [⟨[.field "apiGroups", .item 0], .text⟩, ⟨[.field "apiGroups", .item 2], .text⟩,
          ⟨[.field "resources"], .tuple⟩, ⟨[.field "resource_names", .item 1], .text⟩]⟩ := by
  intro d
  have hd : d.IsJson := by simp [d, Value.record, Value.texts]
  have hrefused : ∀ r, ofValue? d ≠ .ok r := by
    intro r h
    cases h
  exact ⟨hd, hrefused, (reading_follows_grammar hd).2.2 hrefused⟩

end Rule

end RoleGuard

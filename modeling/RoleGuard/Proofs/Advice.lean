import RoleGuard.Audit
import RoleGuard.Proofs.Delegation

/-! # Advice Agrees With Coverage

    The audit looks at one axis of one held rule, coverage at all axes of
    two rules. Both come to the same judgement, because a rule covers itself
    on the axes that the audit does not look at:

    * a rule admits a value on an axis exactly when it covers some rule that
      asks for the value there;
    * so a wildcard is observed where everything is covered, a dangerous
      verb where some request for it is covered, and a required resource is
      missing when no request for it can be granted.
-/

namespace RoleGuard

/-! ## One axis of a rule -/

/-- The axes that the audit looks at. -/
inductive Axis where
  /-- the API groups -/
  | apiGroups
  /-- the resource types -/
  | resources
  /-- the actions -/
  | verbs
deriving DecidableEq, Repr

theorem coversValues_singleton {held : List String} {x : String} :
    coversValues held [x] = true ↔ admits held x := by
  unfold admits
  rw [coversValues_iff, List.forall_mem_singleton, or_comm]

instance (axis : List String) (x : String) : Decidable (admits axis x) :=
  inferInstanceAs (Decidable (_ ∨ _))

namespace Axis

/-- The values of a rule on the axis. -/
def values : Axis → Rule → List String
  | apiGroups, r => r.apiGroups
  | resources, r => r.resources
  | verbs, r => r.verbs

/-- The rule with other values on the axis. -/
def replace (a : Axis) (r : Rule) (xs : List String) : Rule :=
  match a with
  | apiGroups => { r with apiGroups := xs }
  | resources => { r with resources := xs }
  | verbs => { r with verbs := xs }

/-- The name of the axis in observations. -/
def word : Axis → String
  | apiGroups => "API group"
  | resources => "resource"
  | verbs => "verb"

/-- What to do about a wildcard on the axis. -/
def advice : Axis → String
  | apiGroups | resources => "being more specific"
  | verbs => "principle of least privilege"

/-- The observation of a wildcard on the axis. -/
def warning (a : Axis) (i : Nat) : Observation :=
  Audit.wildcardOn i a.word a.advice

theorem exists_iff {P : Axis → Prop} :
    (∃ a, P a) ↔ P apiGroups ∨ P resources ∨ P verbs := by
  constructor
  · rintro ⟨a, ha⟩
    cases a with
    | apiGroups => exact Or.inl ha
    | resources => exact Or.inr (Or.inl ha)
    | verbs => exact Or.inr (Or.inr ha)
  · rintro (h | h | h)
    · exact ⟨_, h⟩
    · exact ⟨_, h⟩
    · exact ⟨_, h⟩

variable {a b : Axis} {p q r : Rule} {xs : List String} {x : String} {i j : Nat}

@[simp] theorem values_replace : a.values (a.replace r xs) = xs := by
  cases a <;> rfl

theorem coversValues_of_covers (h : p.covers q = true) :
    coversValues (a.values p) (a.values q) = true := by
  obtain ⟨hgroups, hresources, hverbs, -⟩ := Rule.covers_iff.mp h
  cases a with
  | apiGroups => exact hgroups
  | resources => exact hresources
  | verbs => exact hverbs

/-- The other axes are those of the rule itself, so only the values on this one count. -/
theorem covers_replace_iff :
    r.covers (a.replace r xs) = true ↔ coversValues (a.values r) xs = true := by
  constructor
  · intro h
    have hvalues := coversValues_of_covers (a := a) h
    rwa [values_replace] at hvalues
  · intro h
    obtain ⟨hgroups, hresources, hverbs, hnames⟩ := Rule.covers_iff.mp r.covers_refl
    cases a with
    | apiGroups => exact Rule.covers_iff.mpr ⟨h, hresources, hverbs, hnames⟩
    | resources => exact Rule.covers_iff.mpr ⟨hgroups, h, hverbs, hnames⟩
    | verbs => exact Rule.covers_iff.mpr ⟨hgroups, hresources, h, hnames⟩

/-- **One axis decides**: the rule admits the value on the axis exactly when
    it covers some rule that asks for it there, whatever else that rule asks. -/
theorem admits_iff_exists_covers :
    admits (a.values r) x ↔ ∃ asked, r.covers asked = true ∧ x ∈ a.values asked := by
  constructor
  · intro h
    refine ⟨a.replace r [x], covers_replace_iff.mpr (coversValues_singleton.mpr h), ?_⟩
    rw [values_replace]
    exact List.mem_singleton.mpr rfl
  · rintro ⟨asked, hcov, hx⟩
    exact admits_of_coversValues (coversValues_of_covers hcov) (Or.inl hx)

/-- Only the wildcard admits all values. It is no exception itself: nothing
    else admits a request for the wildcard. -/
theorem wildcard_mem_iff_covers :
    wildcard ∈ a.values r ↔ ∀ x, r.covers (a.replace r [x]) = true := by
  constructor
  · intro hw x
    exact covers_replace_iff.mpr (coversValues_singleton.mpr (Or.inr hw))
  · intro hall
    exact or_self_iff.mp (coversValues_singleton.mp (covers_replace_iff.mp (hall wildcard)))

theorem wording_inj (h : a.word ++ " '*' - consider " ++ a.advice
    = b.word ++ " '*' - consider " ++ b.advice) : a = b := by
  revert h
  cases a <;> cases b <;> decide

/-- A warning tells its axis and its rule. -/
theorem warning_inj (h : a.warning i = b.warning j) : a = b ∧ i = j := by
  obtain rfl : i = j := congrArg Observation.index h
  have hmessage := congrArg Observation.message h
  refine ⟨wording_inj ?_, rfl⟩
  -- both messages begin with the rule, and differ from there on with the axis
  simpa only [warning, Audit.wildcardOn, String.append_assoc, String.append_right_inj]
    using hmessage

theorem warning_ne_dangerous {v : String} : a.warning i ≠ Audit.dangerous j v := by
  intro h
  have hseverity : Severity.warning = Severity.info := congrArg Observation.severity h
  cases hseverity

end Axis

/-! ## Observations -/

namespace Audit

variable {rules : List Rule} {verbs : List String} {i : Nat} {r : Rule} {o : Observation}

/-- A rule is observed for each axis with a wildcard and each dangerous verb, and for nothing
    else. -/
theorem mem_ofRule_iff :
    o ∈ ofRule verbs i r ↔
      (∃ a : Axis, wildcard ∈ a.values r ∧ o = a.warning i)
        ∨ ∃ v ∈ r.verbs, v ∈ verbs ∧ o = dangerous i v := by
  have hverbs : o ∈ (r.verbs.filter fun v => verbs.contains v).map (dangerous i)
      ↔ ∃ v ∈ r.verbs, v ∈ verbs ∧ o = dangerous i v := by
    simp only [List.mem_map, List.mem_filter, List.contains_iff_mem, and_assoc,
      @eq_comm _ o]
  unfold ofRule
  rw [List.mem_append, hverbs, Axis.exists_iff]
  simp only [List.mem_append, List.mem_ite_nil_right, List.mem_singleton, List.contains_iff_mem,
    or_assoc]
  rfl

theorem index_of_mem_ofRule (ho : o ∈ ofRule verbs i r) : o.index = i := by
  rcases mem_ofRule_iff.mp ho with ⟨a, -, rfl⟩ | ⟨v, -, -, rfl⟩
  · rfl
  · rfl

theorem ofRulesFrom_eq_flatMap (verbs : List String) (i : Nat) (rules : List Rule) :
    ofRulesFrom verbs i rules = (rules.zipIdx i).flatMap fun p => ofRule verbs p.2 p.1 := by
  induction rules generalizing i with
  | nil => rfl
  | cons r rs ih => rw [ofRulesFrom, ih, List.zipIdx_cons, List.flatMap_cons]

theorem mem_ofRules_iff :
    o ∈ ofRules rules verbs ↔ ∃ i r, rules[i]? = some r ∧ o ∈ ofRule verbs i r := by
  unfold ofRules
  rw [ofRulesFrom_eq_flatMap, List.mem_flatMap]
  constructor
  · rintro ⟨⟨r, i⟩, hmem, ho⟩
    exact ⟨i, r, List.mem_zipIdx_iff_getElem?.mp hmem, ho⟩
  · rintro ⟨i, r, hi, ho⟩
    exact ⟨(r, i), List.mem_zipIdx_iff_getElem?.mpr hi, ho⟩

/-- The observations about a position are those about the rule that stands there. -/
theorem mem_ofRules_iff_of_index (hr : rules[i]? = some r) (ho : o.index = i) :
    o ∈ ofRules rules verbs ↔ o ∈ ofRule verbs i r := by
  rw [mem_ofRules_iff]
  constructor
  · rintro ⟨j, p, hp, hmem⟩
    obtain rfl : i = j := ho.symm.trans (index_of_mem_ofRule hmem)
    obtain rfl : r = p := Option.some.inj (hr.symm.trans hp)
    exact hmem
  · intro hmem
    exact ⟨i, r, hr, hmem⟩

theorem warning_mem_ofRules_iff (hr : rules[i]? = some r) {a : Axis} :
    a.warning i ∈ ofRules rules verbs ↔ wildcard ∈ a.values r := by
  rw [mem_ofRules_iff_of_index hr rfl, mem_ofRule_iff]
  constructor
  · rintro (⟨b, hw, heq⟩ | ⟨v, -, -, heq⟩)
    · obtain ⟨rfl, -⟩ := Axis.warning_inj heq
      exact hw
    · exact absurd heq Axis.warning_ne_dangerous
  · intro hw
    exact Or.inl ⟨a, hw, rfl⟩

theorem exists_dangerous_mem_ofRules_iff (hr : rules[i]? = some r) :
    (∃ v, dangerous i v ∈ ofRules rules verbs) ↔ ∃ v ∈ r.verbs, v ∈ verbs := by
  constructor
  · rintro ⟨v, hv⟩
    rw [mem_ofRules_iff_of_index hr rfl, mem_ofRule_iff] at hv
    rcases hv with ⟨a, -, heq⟩ | ⟨w, hheld, hlisted, -⟩
    · exact absurd heq.symm Axis.warning_ne_dangerous
    · exact ⟨w, hheld, hlisted⟩
  · rintro ⟨v, hheld, hlisted⟩
    refine ⟨v, ?_⟩
    rw [mem_ofRules_iff_of_index hr rfl, mem_ofRule_iff]
    exact Or.inr ⟨v, hheld, hlisted, rfl⟩

/-- The verbs of a rule are observed when the rule admits a listed verb. -/
theorem verbs_observed_iff (hverbs : verbs ≠ []) (hr : rules[i]? = some r) :
    ((∃ v, dangerous i v ∈ ofRules rules verbs) ∨ Axis.verbs.warning i ∈ ofRules rules verbs)
      ↔ ∃ v ∈ verbs, admits r.verbs v := by
  rw [exists_dangerous_mem_ofRules_iff hr, warning_mem_ofRules_iff hr]
  constructor
  · rintro (⟨v, hheld, hlisted⟩ | hw)
    · exact ⟨v, hlisted, Or.inl hheld⟩
    · -- the wildcard admits any listed verb, but there has to be one
      obtain ⟨v, hlisted⟩ := List.exists_mem_of_ne_nil verbs hverbs
      exact ⟨v, hlisted, Or.inr hw⟩
  · rintro ⟨v, hlisted, hheld | hw⟩
    · exact Or.inl ⟨v, hheld, hlisted⟩
    · exact Or.inr hw

end Audit

/-! ## What cannot be granted -/

namespace Grantor

variable {g h : Grantor} {a : Axis} {x : String}

/-- No rule that asks for the value on the axis can be granted, whatever else it asks for. -/
def Withholds (g : Grantor) (a : Axis) (x : String) : Prop :=
  ∀ asked : Rule, x ∈ a.values asked → g.canGrant asked = false

theorem withholds_iff : g.Withholds a x ↔ ∀ held ∈ g.granted, ¬ admits (a.values held) x := by
  constructor
  · intro hno held hheld hadmits
    obtain ⟨asked, hcov, hx⟩ := Axis.admits_iff_exists_covers.mp hadmits
    have hgrant : g.canGrant asked = true := canGrant_iff.mpr ⟨held, hheld, hcov⟩
    rw [hno asked hx] at hgrant
    cases hgrant
  · intro hno asked hx
    rw [canGrant_eq_false_iff]
    intro held hheld
    rw [← Bool.not_eq_true]
    intro hcov
    exact hno held hheld (Axis.admits_iff_exists_covers.mpr ⟨asked, hcov, hx⟩)

instance (g : Grantor) (a : Axis) (x : String) : Decidable (g.Withholds a x) :=
  decidable_of_iff _ withholds_iff.symm

/-- What a grantor withholds, the grantors that it dominates withhold. -/
theorem withholds_of_dominates (hdom : h.Dominates g) (hx : h.Withholds a x) :
    g.Withholds a x := by
  intro asked hmem
  rw [← Bool.not_eq_true]
  intro hgrant
  have hgrant' := canGrant_of_dominates hdom hgrant
  rw [hx asked hmem] at hgrant'
  cases hgrant'

end Grantor

namespace Audit

/-! ## The audit and coverage -/

variable {rules : List Rule} {verbs : List String}

/-- Nothing is observed only where no listed verb is admitted. -/
theorem withholds_of_ofRules_eq_nil (hnil : ofRules rules verbs = []) {v : String}
    (hv : v ∈ verbs) (marker : String) : (⟨rules, marker⟩ : Grantor).Withholds .verbs v := by
  rw [Grantor.withholds_iff]
  intro held hheld hadmits
  obtain ⟨i, hi⟩ := List.mem_iff_getElem?.mp hheld
  have hobserved := (verbs_observed_iff (List.ne_nil_of_mem hv) hi).mpr ⟨v, hv, hadmits⟩
  rw [hnil] at hobserved
  rcases hobserved with ⟨w, hw⟩ | hw
  · cases hw
  · cases hw

/-- **The audit is exact.** A wildcard is observed on an axis of a rule
    exactly when the rule covers itself with any one value put there. A
    dangerous verb or a wildcard for verbs is observed exactly when the rule
    covers some request for a listed verb. So where nothing is observed, no
    request for a listed verb can be granted. -/
theorem audit_is_exact (rules : List Rule) (verbs : List String) (hverbs : verbs ≠ []) :
    (∀ i held, rules[i]? = some held →
      (∀ a : Axis, a.warning i ∈ ofRules rules verbs
        ↔ ∀ x, held.covers (a.replace held [x]) = true)
      ∧ ((∃ v, dangerous i v ∈ ofRules rules verbs) ∨ Axis.verbs.warning i ∈ ofRules rules verbs
        ↔ ∃ asked, held.covers asked = true ∧ ∃ v ∈ asked.verbs, v ∈ verbs))
    ∧ (ofRules rules verbs = [] → ∀ marker asked, (∃ v ∈ asked.verbs, v ∈ verbs) →
        (⟨rules, marker⟩ : Grantor).canGrant asked = false) := by
  constructor
  · intro i held hi
    constructor
    · intro a
      exact (warning_mem_ofRules_iff hi).trans Axis.wildcard_mem_iff_covers
    · rw [verbs_observed_iff hverbs hi]
      constructor
      · rintro ⟨v, hlisted, hadmits⟩
        obtain ⟨asked, hcov, hv⟩ := (Axis.admits_iff_exists_covers (a := .verbs)).mp hadmits
        exact ⟨asked, hcov, v, hv, hlisted⟩
      · rintro ⟨asked, hcov, v, hv, hlisted⟩
        exact ⟨v, hlisted, (Axis.admits_iff_exists_covers (a := .verbs)).mpr ⟨asked, hcov, hv⟩⟩
  · rintro hnil marker asked ⟨v, hv, hlisted⟩
    exact withholds_of_ofRules_eq_nil hnil hlisted marker asked hv

/-- The theorem at a rule whose only wildcard is on its verbs, and at rules
    about which nothing is observed. -/
theorem audit_is_exact_at_verbs :
    let held : Rule := ⟨["apps"], [], ["*", "get"], ["web"]⟩
    let rules : List Rule := [⟨[""], ["pods"], ["get"], []⟩, held]
    let readers : List Rule := [⟨["apps"], ["pods"], ["get", "list"], []⟩, ⟨[], [], [], ["web"]⟩]
    let asked : Rule := ⟨["apps"], ["pods"], ["get", "delete"], []⟩
    (["delete"] ≠ [] ∧ rules[1]? = some held ∧ Axis.verbs.warning 1 ∈ ofRules rules ["delete"]
        ∧ (∀ x, held.covers (Axis.verbs.replace held [x]) = true)
        ∧ ∃ asked, held.covers asked = true ∧ ∃ v ∈ asked.verbs, v ∈ ["delete"])
      ∧ ofRules readers ["delete"] = [] ∧ (∃ v ∈ asked.verbs, v ∈ ["delete"])
      ∧ ∀ marker, (⟨readers, marker⟩ : Grantor).canGrant asked = false := by
  intro held rules readers asked
  have hlisted : ["delete"] ≠ [] := by decide
  have hwildcard : Axis.verbs.warning 1 ∈ ofRules rules ["delete"] := by decide
  have hdelete : ∃ v ∈ asked.verbs, v ∈ ["delete"] := by decide
  have hnothing : ofRules readers ["delete"] = [] := by decide
  obtain ⟨hwarning, hverbs⟩ := (audit_is_exact rules ["delete"] hlisted).1 1 held rfl
  refine ⟨⟨hlisted, rfl, hwildcard, ?_, ?_⟩, hnothing, hdelete, ?_⟩
  · exact (hwarning .verbs).mp hwildcard
  · exact hverbs.mp (Or.inr hwildcard)
  · intro marker
    exact (audit_is_exact readers ["delete"] hlisted).2 hnothing marker asked hdelete

/-! ## Required resources -/

theorem names_iff {r : Rule} {resource : String} :
    names r resource = true ↔ admits r.resources resource := by
  unfold names admits
  simp only [Bool.or_eq_true, List.contains_iff_mem]

/-- The axis of resources decides what can be granted of a resource at all. -/
theorem missingResources_eq_filter (g : Grantor) (required : List String) :
    missingResources g.granted required
      = required.filter fun resource => g.Withholds .resources resource := by
  unfold missingResources
  apply List.filter_congr
  intro resource _
  rw [Bool.eq_iff_iff, decide_eq_true_iff, Grantor.withholds_iff]
  simp only [Bool.not_eq_true', List.any_eq_false, names_iff]
  rfl

theorem missingResources_sublist_of_dominates {g h : Grantor} (hdom : h.Dominates g)
    (required : List String) :
    (missingResources h.granted required).Sublist (missingResources g.granted required) := by
  rw [missingResources_eq_filter, missingResources_eq_filter]
  apply List.monotone_filter_right
  intro resource hres
  rw [decide_eq_true_iff] at hres ⊢
  exact Grantor.withholds_of_dominates hdom hres

theorem missingResources_append (rules added : List Rule) (required : List String) :
    missingResources (rules ++ added) required
      = missingResources added (missingResources rules required) := by
  unfold missingResources
  rw [List.filter_filter]
  apply List.filter_congr
  intro resource _
  rw [List.any_append, Bool.not_or, Bool.and_comm]

/-- **Required resources are missing exactly when no request for them can be
    granted**, whatever else the request asks for; they are listed in their
    order, with repetitions. More rules only remove entries, and rules that
    are added later are judged by what was missing before. -/
theorem missing_resources_are_withheld (g : Grantor) (required : List String) :
    missingResources g.granted required
        = required.filter (fun resource => g.Withholds .resources resource)
    ∧ (∀ rules, (∀ r ∈ g.granted, r ∈ rules) →
        (missingResources rules required).Sublist (missingResources g.granted required))
    ∧ ∀ added, missingResources (g.granted ++ added) required
        = missingResources added (missingResources g.granted required) := by
  refine ⟨missingResources_eq_filter g required, ?_, ?_⟩
  · intro rules hsub
    have hdom : (⟨rules, g.marker⟩ : Grantor).Dominates g := Grantor.dominates_of_subset hsub
    exact missingResources_sublist_of_dominates hdom required
  · intro added
    exact missingResources_append g.granted added required

/-- The theorem at a rule that names the token of one account only. -/
theorem missing_resources_are_withheld_at_token :
    let g : Grantor := { granted := [⟨[""], ["pods"], ["get"], []⟩] }
    let rules : List Rule :=
      [⟨[], ["serviceaccounts/token"], [], ["web"]⟩, ⟨[""], ["pods"], ["get"], []⟩]
    let required := ["serviceaccounts/token", "secrets", "serviceaccounts/token", "pods"]
    (∀ r ∈ g.granted, r ∈ rules)
      ∧ missingResources g.granted required
        = ["serviceaccounts/token", "secrets", "serviceaccounts/token"]
      ∧ missingResources rules required = ["secrets"]
      ∧ (missingResources rules required).Sublist (missingResources g.granted required) := by
  intro g rules required
  have hsub : ∀ r ∈ g.granted, r ∈ rules := by decide
  exact ⟨hsub, by decide, by decide, (missing_resources_are_withheld g required).2.1 rules hsub⟩

end Audit

end RoleGuard

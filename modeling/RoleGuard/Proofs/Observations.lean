import RoleGuard.Proofs.Advice

/-! # The Order of Observations

    An audit goes through the rules, and through the axes and verbs of each
    rule. What it says about a rule depends on the rule, its position and
    the dangerous verbs alone:

    * **once**: an axis is observed once, however often it holds the
      wildcard, and a verb as often as it occurs;
    * **in order**: positions rise, axes come before verbs, and verbs stand
      as in the rule. No other list of observations is like that;
    * **moved**: rules in front of others change the position of what is
      observed, in the record and in the message;
    * **more verbs**: further dangerous verbs add observations about
      themselves, and nothing else changes.
-/

namespace RoleGuard

section Rising

variable {α : Type} {key : α → Nat} {xs ys : List α} {x : α}

theorem mem_iff_of_filter (h : ∀ k, (xs.filter fun x => key x = k) = ys.filter fun x => key x = k) :
    x ∈ xs ↔ x ∈ ys := by
  have hx := congrArg (x ∈ ·) (h (key x))
  simpa [List.mem_filter] using hx

/-- Lists with rising keys are determined by what they hold at each key. -/
theorem eq_of_rising_of_filter (hxs : xs.Pairwise fun x y => key x ≤ key y)
    (hys : ys.Pairwise fun x y => key x ≤ key y)
    (h : ∀ k, (xs.filter fun x => key x = k) = ys.filter fun x => key x = k) : xs = ys := by
  induction xs generalizing ys with
  | nil =>
    exact (List.eq_nil_iff_forall_not_mem.mpr fun y hy => nomatch (mem_iff_of_filter h).mpr hy).symm
  | cons x xs ih =>
    cases ys with
    | nil => cases (mem_iff_of_filter h).mp List.mem_cons_self
    | cons y ys =>
      obtain ⟨hx, hxs'⟩ := List.pairwise_cons.mp hxs
      obtain ⟨hy, hys'⟩ := List.pairwise_cons.mp hys
      -- the first key of either list is the least key of both
      have hle : key x ≤ key y := by
        rcases List.mem_cons.mp ((mem_iff_of_filter h).mpr List.mem_cons_self) with rfl | hyxs
        · exact Nat.le_refl _
        · exact hx y hyxs
      have hge : key y ≤ key x := by
        rcases List.mem_cons.mp ((mem_iff_of_filter h).mp List.mem_cons_self) with rfl | hxys
        · exact Nat.le_refl _
        · exact hy x hxys
      have hkey : key y = key x := Nat.le_antisymm hge hle
      have hfirst := h (key x)
      rw [List.filter_cons_of_pos (by simp),
        List.filter_cons_of_pos (by simpa using hkey)] at hfirst
      obtain rfl := (List.cons.inj hfirst).1
      have hrest : ∀ k, (xs.filter fun z => key z = k) = ys.filter fun z => key z = k := by
        intro k
        have hk := h k
        simp only [List.filter_cons] at hk
        split at hk
        · exact (List.cons.inj hk).2
        · exact hk
      rw [ih hxs' hys' hrest]

end Rising

/-! ## Axes in order -/

namespace Axis

/-- The axes in the order in which they are looked at. -/
def all : List Axis :=
  [apiGroups, resources, verbs]

/-- The warnings about a rule, one for each axis with a wildcard. -/
def warnings (i : Nat) (r : Rule) : List Observation :=
  (all.filter fun a => (a.values r).contains wildcard).map fun a => a.warning i

end Axis

namespace Audit

variable {rules more : List Rule} {verbs verbs' : List String} {i n : Nat} {r : Rule}
  {o : Observation} {os : List Observation} {v w : String}

/-- The verbs of a rule that are dangerous, as often as they occur. -/
def dangers (verbs : List String) (i : Nat) (r : Rule) : List Observation :=
  (r.verbs.filter fun v => verbs.contains v).map (dangerous i)

theorem ofRule_eq (verbs : List String) (i : Nat) (r : Rule) :
    ofRule verbs i r = Axis.warnings i r ++ dangers verbs i r := by
  have hwarnings : Axis.warnings i r
      = (if r.apiGroups.contains wildcard then [Axis.apiGroups.warning i] else [])
        ++ (if r.resources.contains wildcard then [Axis.resources.warning i] else [])
        ++ (if r.verbs.contains wildcard then [Axis.verbs.warning i] else []) := by
    unfold Axis.warnings Axis.all
    simp only [List.filter_cons, List.filter_nil, Axis.values]
    split_ifs <;> rfl
  rw [hwarnings]
  rfl

/-! ## Rules in order -/

theorem le_index_of_mem_ofRulesFrom (ho : o ∈ ofRulesFrom verbs i rules) : i ≤ o.index := by
  rw [ofRulesFrom_eq_flatMap, List.mem_flatMap] at ho
  obtain ⟨p, hp, ho⟩ := ho
  rw [index_of_mem_ofRule ho]
  exact List.le_snd_of_mem_zipIdx hp

theorem rising_ofRulesFrom (verbs : List String) (i : Nat) (rules : List Rule) :
    (ofRulesFrom verbs i rules).Pairwise fun o p => o.index ≤ p.index := by
  induction rules generalizing i with
  | nil => exact .nil
  | cons r rules ih =>
    have hhere : (ofRule verbs i r).Pairwise fun o p => o.index ≤ p.index := by
      refine List.pairwise_of_forall_mem_list fun o ho p hp => ?_
      exact Nat.le_of_eq ((index_of_mem_ofRule ho).trans (index_of_mem_ofRule hp).symm)
    have hlater : ∀ o ∈ ofRule verbs i r, ∀ p ∈ ofRulesFrom verbs (i + 1) rules,
        o.index ≤ p.index := by
      intro o ho p hp
      rw [index_of_mem_ofRule ho]
      exact Nat.le_of_succ_le (le_index_of_mem_ofRulesFrom hp)
    rw [ofRulesFrom, List.pairwise_append]
    exact ⟨hhere, ih (i + 1), hlater⟩

/-- The observations at a position are those about the rule there. -/
theorem filter_ofRulesFrom {k : Nat} (hr : rules[k]? = some r) :
    ((ofRulesFrom verbs i rules).filter fun o => o.index = i + k) = ofRule verbs (i + k) r := by
  induction rules generalizing i k with
  | nil => cases hr
  | cons p rules ih =>
    rw [ofRulesFrom, List.filter_append]
    cases k with
    | zero =>
      -- the rule stands first, and the positions of all others are greater
      obtain rfl : p = r := Option.some.inj hr
      have hhere : ((ofRule verbs i p).filter fun o => o.index = i + 0) = ofRule verbs i p :=
        List.filter_eq_self.mpr fun o ho => by simpa using index_of_mem_ofRule ho
      have hlater : ((ofRulesFrom verbs (i + 1) rules).filter fun o => o.index = i + 0) = [] := by
        refine List.filter_eq_nil_iff.mpr fun o ho => ?_
        have hle := le_index_of_mem_ofRulesFrom ho
        simpa using by omega
      rw [hhere, hlater, List.append_nil]
      rfl
    | succ k =>
      have hhere : ((ofRule verbs i p).filter fun o => o.index = i + (k + 1)) = [] := by
        refine List.filter_eq_nil_iff.mpr fun o ho => ?_
        simp [index_of_mem_ofRule ho]
      have hlater := ih (i := i + 1) hr
      rw [show i + 1 + k = i + (k + 1) by omega] at hlater
      rw [hhere, List.nil_append, hlater]

/-! ## What is reported -/

/-- The observations about rules: rule by rule, one warning for each axis with a wildcard in the
    order of the axes, then the dangerous verbs in the order of the rule, and nothing else. -/
structure Reports (rules : List Rule) (verbs : List String) (os : List Observation) : Prop where
  /-- the positions of the rules rise -/
  rising : os.Pairwise fun o p => o.index ≤ p.index
  /-- each rule has its own observations -/
  atRule : ∀ i r, rules[i]? = some r →
    (os.filter fun o => o.index = i) = Axis.warnings i r ++ dangers verbs i r
  /-- there is a rule at each position -/
  within : ∀ o ∈ os, o.index < rules.length

theorem reports_ofRules (rules : List Rule) (verbs : List String) :
    Reports rules verbs (ofRules rules verbs) := by
  refine ⟨rising_ofRulesFrom verbs 0 rules, ?_, ?_⟩
  · intro i r hr
    have hfilter : ((ofRulesFrom verbs 0 rules).filter fun o => o.index = 0 + i)
        = ofRule verbs (0 + i) r := filter_ofRulesFrom hr
    rwa [Nat.zero_add, ofRule_eq] at hfilter
  · intro o ho
    obtain ⟨i, r, hr, ho⟩ := mem_ofRules_iff.mp ho
    rw [index_of_mem_ofRule ho]
    exact (List.getElem?_eq_some_iff.mp hr).1

theorem Reports.filter_eq {os' : List Observation} (h : Reports rules verbs os)
    (h' : Reports rules verbs os') (i : Nat) :
    (os.filter fun o => o.index = i) = os'.filter fun o => o.index = i := by
  by_cases hi : i < rules.length
  · have hr : rules[i]? = some rules[i] := List.getElem?_eq_getElem hi
    rw [h.atRule i _ hr, h'.atRule i _ hr]
  · have hnone : ∀ os, Reports rules verbs os → (os.filter fun o => o.index = i) = [] := by
      intro os h
      refine List.filter_eq_nil_iff.mpr fun o ho => ?_
      have hwithin := h.within o ho
      simpa using by omega
    rw [hnone os h, hnone os' h']

/-- **An audit is told by what it reports.** -/
theorem reports_iff : Reports rules verbs os ↔ os = ofRules rules verbs := by
  constructor
  · intro h
    have hof := reports_ofRules rules verbs
    exact eq_of_rising_of_filter h.rising hof.rising (h.filter_eq hof)
  · rintro rfl
    exact reports_ofRules rules verbs

/-! ## Rules in front -/

/-- How a message about a rule begins. -/
def heading (i : Nat) : String :=
  "Rule " ++ toString i

/-- The observation when its rule stands further behind, in its position and in its message. -/
def moved (n : Nat) (o : Observation) : Observation :=
  ⟨o.severity, o.index + n,
    heading (o.index + n) ++ String.ofList (o.message.toList.drop (heading o.index).length)⟩

theorem moved_mk (s : Severity) (i n : Nat) (rest : String) :
    moved n ⟨s, i, heading i ++ rest⟩ = ⟨s, i + n, heading (i + n) ++ rest⟩ := by
  have hrest : String.ofList ((heading i ++ rest).toList.drop (heading i).length) = rest := by
    rw [String.toList_append, ← String.length_toList, List.drop_left, String.ofList_toList]
  exact congrArg (fun rest => (⟨s, i + n, heading (i + n) ++ rest⟩ : Observation)) hrest

theorem warning_eq (a : Axis) (i : Nat) :
    a.warning i = ⟨.warning, i,
      heading i ++ (" has wildcard " ++ a.word ++ " '*' - consider " ++ a.advice)⟩ := by
  simp only [Axis.warning, wildcardOn, heading, String.append_assoc]

theorem dangerous_eq (i : Nat) (v : String) :
    dangerous i v = ⟨.info, i, heading i
      ++ (" has potentially dangerous permission '" ++ v ++ "' - verify this is needed")⟩ := by
  simp only [dangerous, heading, String.append_assoc]

@[simp] theorem moved_warning (a : Axis) (i n : Nat) :
    moved n (a.warning i) = a.warning (i + n) := by
  rw [warning_eq, moved_mk, warning_eq]

@[simp] theorem moved_dangerous (i n : Nat) (v : String) :
    moved n (dangerous i v) = dangerous (i + n) v := by
  rw [dangerous_eq, moved_mk, dangerous_eq]

theorem ofRule_add (verbs : List String) (i n : Nat) (r : Rule) :
    ofRule verbs (i + n) r = (ofRule verbs i r).map (moved n) := by
  rw [ofRule_eq, ofRule_eq, List.map_append]
  unfold Axis.warnings dangers
  simp only [List.map_map, Function.comp_def, moved_warning, moved_dangerous]

theorem ofRulesFrom_add (verbs : List String) (i n : Nat) (rules : List Rule) :
    ofRulesFrom verbs (i + n) rules = (ofRulesFrom verbs i rules).map (moved n) := by
  induction rules generalizing i with
  | nil => rfl
  | cons r rules ih =>
    rw [ofRulesFrom, ofRulesFrom, List.map_append, ← ofRule_add, ← ih, Nat.add_right_comm]

/-- **Rules in front move the observations about those behind.** -/
theorem ofRules_append (rules more : List Rule) (verbs : List String) :
    ofRules (rules ++ more) verbs
      = ofRules rules verbs ++ (ofRules more verbs).map (moved rules.length) := by
  unfold ofRules
  rw [← ofRulesFrom_add, ofRulesFrom_eq_flatMap, ofRulesFrom_eq_flatMap, ofRulesFrom_eq_flatMap,
    List.zipIdx_append, List.flatMap_append]

/-! ## More dangerous verbs -/

/-- The observation is a warning, or is about one of the verbs. -/
def Concerns (verbs : List String) (o : Observation) : Prop :=
  o.severity = .warning ∨ ∃ v ∈ verbs, o = dangerous o.index v

instance (verbs : List String) (o : Observation) : Decidable (Concerns verbs o) :=
  inferInstanceAs (Decidable (_ ∨ _))

theorem dangerous_inj (h : dangerous i v = dangerous i w) : v = w := by
  have hmessage := congrArg Observation.message h
  simpa only [dangerous, String.append_assoc, String.append_right_inj, String.append_left_inj]
    using hmessage

theorem concerns_warning (verbs : List String) (a : Axis) (i : Nat) :
    Concerns verbs (a.warning i) :=
  Or.inl rfl

theorem concerns_dangerous_iff : Concerns verbs (dangerous i v) ↔ v ∈ verbs := by
  constructor
  · rintro (hseverity | ⟨w, hw, heq⟩)
    · cases hseverity
    · rwa [dangerous_inj heq]
  · intro hv
    exact Or.inr ⟨v, hv, rfl⟩

theorem ofRule_eq_filter (hsub : verbs ⊆ verbs') (i : Nat) (r : Rule) :
    ofRule verbs i r = (ofRule verbs' i r).filter fun o => Concerns verbs o := by
  rw [ofRule_eq, ofRule_eq, List.filter_append]
  congr 1
  · -- warnings do not depend on the verbs
    refine (List.filter_eq_self.mpr fun o ho => ?_).symm
    obtain ⟨a, -, rfl⟩ := List.mem_map.mp ho
    exact decide_eq_true (concerns_warning verbs a i)
  · unfold dangers
    rw [List.filter_map, List.filter_filter]
    refine congrArg (List.map (dangerous i)) (List.filter_congr fun v _ => ?_)
    rw [Bool.eq_iff_iff, Bool.and_eq_true, Function.comp_apply, decide_eq_true_iff,
      concerns_dangerous_iff, List.contains_iff_mem, List.contains_iff_mem]
    exact ⟨fun hv => ⟨hv, hsub hv⟩, And.left⟩

/-- **More dangerous verbs add observations about themselves only.** -/
theorem ofRules_eq_filter (hsub : verbs ⊆ verbs') (rules : List Rule) :
    ofRules rules verbs = (ofRules rules verbs').filter fun o => Concerns verbs o := by
  unfold ofRules
  rw [ofRulesFrom_eq_flatMap, ofRulesFrom_eq_flatMap, List.filter_flatMap]
  simp only [← ofRule_eq_filter hsub]

/-- **Observations are exact.** Rule by rule, an audit reports each axis with
    a wildcard once and each occurrence of a dangerous verb, in order, and
    nothing else; there is no other such list. Rules in front of others leave
    the observations about these as they are, apart from the position in the
    record and in the message. With more dangerous verbs, leaving out what
    is no warning and not about the old ones gives back the old observations. -/
theorem observations_are_exact (rules : List Rule) (verbs : List String) :
    (∀ os, Reports rules verbs os ↔ os = ofRules rules verbs)
    ∧ (∀ more, ofRules (rules ++ more) verbs
        = ofRules rules verbs ++ (ofRules more verbs).map (moved rules.length))
    ∧ ∀ verbs', verbs ⊆ verbs' → ofRules rules verbs
        = (ofRules rules verbs').filter fun o => Concerns verbs o :=
  ⟨fun _ => reports_iff, fun more => ofRules_append rules more verbs,
    fun _ hsub => ofRules_eq_filter hsub rules⟩

/-- The theorem at a rule with repeated wildcards and verbs, where the
    wildcard is a dangerous verb as well. -/
theorem observations_are_exact_at_repeated_verbs :
    let r : Rule := ⟨["*", "", "*"], ["pods"], ["delete", "*", "get", "delete"], []⟩
    let few := ["delete"]
    let many := ["*", "escalate", "delete"]
    few ⊆ many
      ∧ ofRules [r] many = [Axis.apiGroups.warning 0, Axis.verbs.warning 0,
          dangerous 0 "delete", dangerous 0 "*", dangerous 0 "delete"]
      ∧ ofRules [r] few = (ofRules [r] many).filter fun o => Concerns few o := by
  intro r few many
  have hsub : few ⊆ many := by decide
  exact ⟨hsub, by decide, (observations_are_exact [r] few).2.2 many hsub⟩

end Audit

end RoleGuard

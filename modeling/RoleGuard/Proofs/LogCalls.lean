import Mathlib.Data.List.Basic
import RoleGuard.Log.Setup

/-! # The Log Follows Its Calls

    The log is set up, given handlers by others and written to, in any order
    and with any levels. Its setup is determined by the calls so far:

    * **Step**: a level that is accepted replaces the handler of the program
      and leaves all others; a level that is refused changes nothing, since
      it is refused before the first handler is touched.
    * **Run**: by induction on the calls, there is one handler of the program
      once a level was accepted, the handlers of others stand in the order
      in which they were first added, and the level is the last accepted one.
    * **Output**: from then on, a message is written once or not at all.
-/

namespace RoleGuard.Log

/-! ## Levels -/

/-- What a level stands for: a number, a truth value or a name in any case. -/
inductive Denotes : Value → Int → Prop where
  /-- a number stands for itself -/
  | number (n : Int) : Denotes (.int n) n
  /-- truth values count as numbers -/
  | truth (b : Bool) : Denotes (.bool b) (if b then 1 else 0)
  /-- a name stands for its number -/
  | name {text : String} {level : LevelName} (h : Text.upper text = level.text) :
      Denotes (.text text) level.value

namespace LevelName

theorem ofText?_text (level : LevelName) : ofText? level.text = some level := by
  cases level <;> decide

theorem upper_text (level : LevelName) : Text.upper level.text = level.text := by
  cases level <;> decide +kernel

theorem ofAnyCase?_eq_some_iff {text : String} {level : LevelName} :
    ofAnyCase? text = some level ↔ Text.upper text = level.text := by
  unfold ofAnyCase?
  constructor
  · intro h
    have hfound := List.find?_some h
    exact (beq_iff_eq.mp hfound).symm
  · intro h
    rw [h]
    exact ofText?_text level

end LevelName

theorem levelNumber_eq_ok_iff {level : Value} {n : Int} :
    levelNumber level = .ok n ↔ Denotes level n := by
  constructor
  · intro h
    unfold levelNumber at h
    cases level with
    | int m =>
      cases h
      exact .number n
    | bool b =>
      cases h
      exact .truth b
    | text s =>
      cases hname : LevelName.ofAnyCase? s with
      | none => simp [Value.asInt?, hname] at h
      | some l =>
        simp only [Value.asInt?, hname, Except.ok.injEq] at h
        subst h
        exact .name (LevelName.ofAnyCase?_eq_some_iff.mp hname)
    | _ =>
      -- what is no level is refused, whether it can be shown or not
      dsimp only [Value.asInt?] at h
      split at h <;> cases h
  · intro h
    cases h with
    | number => rfl
    | truth b => rfl
    | name htext =>
      have hname := LevelName.ofAnyCase?_eq_some_iff.mpr htext
      simp only [levelNumber, Value.asInt?, hname]

/-! ## Changes -/

namespace Change

variable {level : Value} {n : Int} {fault : LevelFault} {s : Setup} {h : Handler}

theorem removeOwn_cons_run (handlers : List Handler) :
    (removeOwn (h :: handlers)).run s
      = (removeOwn handlers).run
          (if h.isOwn then { s with handlers := s.handlers.erase h } else s) := by
  unfold removeOwn
  rw [List.forM]
  cases h.isOwn with
  | true => rfl
  | false => rfl

/-- The loop over a copy of the handlers takes away all that are the
    program's. What it has passed and kept is not the program's, so that the
    handler it meets is found where it stands. -/
theorem removeOwn_run (kept handlers : List Handler) (hkept : ∀ h ∈ kept, h.isOwn = false)
    (hs : s.handlers = kept ++ handlers) :
    (removeOwn handlers).run s
      = .ok () { s with handlers := kept ++ handlers.filter (!·.isOwn) } := by
  induction handlers generalizing kept s with
  | nil =>
    rw [List.filter_nil, ← hs]
    rfl
  | cons h rest ih =>
    rw [removeOwn_cons_run]
    by_cases hown : h.isOwn = true
    · have hfresh : h ∉ kept := by
        intro hmem
        rw [hkept h hmem] at hown
        cases hown
      have herase : s.handlers.erase h = kept ++ rest := by
        rw [hs, List.erase_append_right _ hfresh, List.erase_cons_head]
      rw [if_pos hown, ih kept hkept herase, List.filter_cons_of_neg (by simp [hown])]
    · have hkept' : ∀ p ∈ kept ++ [h], p.isOwn = false := by
        intro p hp
        rcases List.mem_append.mp hp with hp | hp
        · exact hkept p hp
        · obtain rfl := List.mem_singleton.mp hp
          simpa using hown
      have hs' : s.handlers = (kept ++ [h]) ++ rest := by simpa using hs
      rw [if_neg hown, ih (kept ++ [h]) hkept' hs', List.filter_cons_of_pos (by simp [hown])]
      simp

/-- The handler that is added is none of those that are left, so it is added indeed. -/
theorem configure_of_ok (hn : levelNumber level = .ok n) :
    (configure level).run s = .ok () (s.withLevel n) := by
  have hloop : (removeOwn s.handlers).run { s with level := n }
      = .ok () { s with level := n, handlers := s.handlers.filter (!·.isOwn) } :=
    removeOwn_run [] s.handlers (by simp) rfl
  have hfresh : Handler.own s.made ∉ s.handlers.filter (!·.isOwn) := by
    simp [Handler.isOwn]
  calc (configure level).run s
      = (do
          removeOwn s.handlers
          let h ← makeHandler
          modify (·.add h) : Change Unit).run { s with level := n } := by
        unfold configure setLevel
        rw [hn]
        rfl
    _ = .ok () (({ s with
          level := n, handlers := s.handlers.filter (!·.isOwn), made := s.made + 1 } : Setup).add
            (.own s.made)) := by
        rw [EStateM.run_bind, hloop]
        rfl
    _ = .ok () (s.withLevel n) := by
        rw [Setup.add, if_neg hfresh]
        rfl

/-- A level is refused before anything else is done. -/
theorem configure_of_error (hfault : levelNumber level = .error fault) :
    (configure level).run s = .error fault s := by
  unfold configure setLevel
  rw [hfault]
  rfl

end Change

/-! ## The past -/

/-- Calls with what came of them. -/
abbrev Past := List (Call × Answer)

/-- The level of a call that set up the log. -/
def acceptedLevel? : Call × Answer → Option Value
  | (.configure level, .done) => some level
  | _ => none

/-- The handler that a call of somebody else adds. -/
def addedId? : Call × Answer → Option Nat
  | (.addForeign id, _) => some id
  | _ => none

/-- The level of the last call that set up the log, if there was one. -/
def lastLevel? (past : Past) : Option Value :=
  (past.filterMap acceptedLevel?).getLast?

/-- The handlers added by others, in the order of the calls. -/
def addedIds (past : Past) : List Nat :=
  past.filterMap addedId?

theorem lastLevel?_concat (past : Past) (p : Call × Answer) :
    lastLevel? (past ++ [p]) = (acceptedLevel? p).or (lastLevel? past) := by
  unfold lastLevel?
  rw [List.filterMap_append, List.getLast?_append]
  cases hp : acceptedLevel? p with
  | none => simp [hp]
  | some level => simp [hp]

theorem addedIds_concat (past : Past) (p : Call × Answer) :
    addedIds (past ++ [p]) = addedIds past ++ (addedId? p).toList := by
  unfold addedIds
  rw [List.filterMap_append]
  cases hp : addedId? p with
  | none => simp [hp]
  | some id => simp [hp]

/-! ## Handlers -/

/-- The handlers that are the program's. -/
def ownHandlers (handlers : List Handler) : List Handler :=
  handlers.filter Handler.isOwn

/-- The handlers of others. -/
def foreignIds (handlers : List Handler) : List Nat :=
  handlers.filterMap fun h => match h with
    | .own _ => none
    | .foreign id => some id

theorem eraseDups_concat (ids : List Nat) (id : Nat) :
    (ids ++ [id]).eraseDups
      = if id ∈ ids then ids.eraseDups else ids.eraseDups ++ [id] := by
  rw [List.eraseDups_append]
  by_cases hmem : id ∈ ids
  · simp [hmem, List.removeAll]
  · simp [hmem, List.removeAll, List.eraseDups_cons]

theorem mem_foreignIds {handlers : List Handler} {id : Nat} :
    id ∈ foreignIds handlers ↔ .foreign id ∈ handlers := by
  unfold foreignIds
  rw [List.mem_filterMap]
  constructor
  · rintro ⟨h, hmem, heq⟩
    cases h with
    | own serial => cases heq
    | foreign id' =>
      cases heq
      exact hmem
  · intro hmem
    exact ⟨.foreign id, hmem, rfl⟩

namespace Setup

variable {s : Setup} {level : Value} {n : Int} {fault : LevelFault}

theorem ownHandlers_withLevel (s : Setup) (n : Int) :
    ownHandlers (s.withLevel n).handlers = [.own s.made] := by
  have hnone : (s.handlers.filter (!·.isOwn)).filter Handler.isOwn = [] := by
    rw [List.filter_eq_nil_iff]
    intro h hmem
    simpa using (List.mem_filter.mp hmem).2
  unfold ownHandlers withLevel
  rw [List.filter_append, hnone]
  rfl

theorem foreignIds_withLevel (s : Setup) (n : Int) :
    foreignIds (s.withLevel n).handlers = foreignIds s.handlers := by
  unfold foreignIds withLevel
  rw [List.filterMap_append, List.filterMap_filter, List.filterMap_cons_none rfl,
    List.filterMap_nil, List.append_nil]
  apply List.filterMap_congr
  intro h _
  cases h <;> rfl

theorem ownHandlers_addForeign (s : Setup) (id : Nat) :
    ownHandlers (s.addForeign id).handlers = ownHandlers s.handlers := by
  unfold addForeign add
  by_cases hmem : Handler.foreign id ∈ s.handlers
  · rw [if_pos hmem]
  · rw [if_neg hmem]
    simp [ownHandlers, Handler.isOwn]

/-- A handler that is there already is not added again, and keeps its place. -/
theorem foreignIds_addForeign (s : Setup) (id : Nat) :
    foreignIds (s.addForeign id).handlers
      = if id ∈ foreignIds s.handlers then foreignIds s.handlers
        else foreignIds s.handlers ++ [id] := by
  unfold addForeign add
  by_cases hmem : Handler.foreign id ∈ s.handlers
  · rw [if_pos hmem, if_pos (mem_foreignIds.mpr hmem)]
  · rw [if_neg hmem, if_neg (mt mem_foreignIds.mp hmem)]
    simp [foreignIds]

theorem level_addForeign (s : Setup) (id : Nat) : (s.addForeign id).level = s.level := by
  unfold addForeign add
  split
  · rfl
  · rfl

/-! ## Calls -/

theorem call_of_denotes (h : Denotes level n) :
    s.call (.configure level) = (s.withLevel n, .done) := by
  rw [call, Change.configure_of_ok (levelNumber_eq_ok_iff.mpr h)]

theorem call_of_fault (h : levelNumber level = .error fault) :
    s.call (.configure level) = (s, .refused fault) := by
  rw [call, Change.configure_of_error h]

theorem call_log_fst (s : Setup) (time : String) (r : Record) (cause : Option Cause) :
    (s.call (.log time r cause)).1 = s := by
  simp only [call]
  split <;> rfl

/-- A level is accepted, or it is refused and nothing has changed. -/
theorem call_configure_cases (s : Setup) (level : Value) :
    (∃ n, Denotes level n ∧ s.call (.configure level) = (s.withLevel n, .done))
      ∨ ∃ fault, (∀ n, ¬ Denotes level n) ∧ s.call (.configure level) = (s, .refused fault) := by
  cases hlevel : levelNumber level with
  | ok n =>
    have hn := levelNumber_eq_ok_iff.mp hlevel
    exact Or.inl ⟨n, hn, call_of_denotes hn⟩
  | error fault =>
    refine Or.inr ⟨fault, ?_, call_of_fault hlevel⟩
    intro n hn
    rw [levelNumber_eq_ok_iff.mpr hn] at hlevel
    cases hlevel

/-! ## Runs -/

/-- The setup is what the calls so far have made of it. -/
structure Reflects (past : Past) (s : Setup) : Prop where
  /-- there is one handler of the program once a level was accepted, and none before -/
  own : (ownHandlers s.handlers).length = if (lastLevel? past).isSome then 1 else 0
  /-- the handlers of others are all there, in the order in which they first came -/
  foreign : foreignIds s.handlers = (addedIds past).eraseDups
  /-- no level is set before one was accepted -/
  unset : lastLevel? past = none → s.level = 0
  /-- the level is the last one that was accepted -/
  level : ∀ v, lastLevel? past = some v → Denotes v s.level

variable {past : Past}

/-- The past of a run is made of its calls, each with what came of it. -/
theorem run_calls (s : Setup) (calls : List Call) : (s.run calls).2.map Prod.fst = calls := by
  induction calls generalizing s with
  | nil => rfl
  | cons c cs ih => exact congrArg (c :: ·) (ih (s.call c).1)

theorem reflects_start : Reflects [] {} where
  own := rfl
  foreign := rfl
  unset _ := rfl
  level _ h := by cases h

/-- A call that neither set up the log nor added a handler leaves the setup in line. -/
theorem Reflects.of_idle (h : Reflects past s) {p : Call × Answer}
    (hlevel : acceptedLevel? p = none) (hadded : addedId? p = none) :
    Reflects (past ++ [p]) s := by
  have hlast : lastLevel? (past ++ [p]) = lastLevel? past := by
    rw [lastLevel?_concat, hlevel, Option.none_or]
  have hids : addedIds (past ++ [p]) = addedIds past := by
    rw [addedIds_concat, hadded, Option.toList_none, List.append_nil]
  exact ⟨hlast ▸ h.own, hids ▸ h.foreign, hlast ▸ h.unset, hlast ▸ h.level⟩

theorem Reflects.withLevel (h : Reflects past s) (hn : Denotes level n) :
    Reflects (past ++ [(.configure level, .done)]) (s.withLevel n) := by
  have hlast : lastLevel? (past ++ [(.configure level, .done)]) = some level := by
    rw [lastLevel?_concat]
    rfl
  refine ⟨?_, ?_, ?_, ?_⟩
  · rw [ownHandlers_withLevel, hlast]
    rfl
  · rw [foreignIds_withLevel, h.foreign, addedIds_concat]
    simp [addedId?]
  · intro hnone
    rw [hlast] at hnone
    cases hnone
  · intro v hv
    obtain rfl := Option.some.inj (hlast.symm.trans hv)
    exact hn

theorem Reflects.addForeign (h : Reflects past s) (id : Nat) :
    Reflects (past ++ [(.addForeign id, .done)]) (s.addForeign id) := by
  have hlast : lastLevel? (past ++ [(.addForeign id, .done)]) = lastLevel? past := by
    rw [lastLevel?_concat]
    rfl
  refine ⟨?_, ?_, ?_, ?_⟩
  · rw [ownHandlers_addForeign, hlast]
    exact h.own
  · have hids : addedIds (past ++ [(.addForeign id, .done)]) = addedIds past ++ [id] :=
      addedIds_concat past _
    rw [foreignIds_addForeign, hids, eraseDups_concat, h.foreign]
    simp only [List.mem_eraseDups]
  · intro hnone
    rw [level_addForeign]
    exact h.unset (hlast ▸ hnone)
  · intro v hv
    rw [level_addForeign]
    exact h.level v (hlast ▸ hv)

/-- **Step**: one call keeps the setup in line with the past. -/
theorem Reflects.call (h : Reflects past s) (c : Call) :
    Reflects (past ++ [(c, (s.call c).2)]) (s.call c).1 := by
  cases c with
  | configure level =>
    rcases s.call_configure_cases level with ⟨n, hn, hcall⟩ | ⟨fault, -, hcall⟩
    · rw [hcall]
      exact h.withLevel hn
    · rw [hcall]
      exact h.of_idle rfl rfl
  | addForeign id => exact h.addForeign id
  | log time r cause =>
    rw [call_log_fst]
    exact h.of_idle rfl rfl

/-- **Run**: so do any calls, one after the other. -/
theorem Reflects.run (h : Reflects past s) (calls : List Call) :
    Reflects (past ++ (s.run calls).2) (s.run calls).1 := by
  induction calls generalizing past s with
  | nil =>
    rw [Setup.run, List.append_nil]
    exact h
  | cons c cs ih =>
    have hrest := ih (h.call c)
    rw [List.append_assoc] at hrest
    exact hrest

/-! ## Messages -/

theorem join_handled (time : String) (r : Record) (cause : Option Cause)
    (handlers : List Handler) :
    String.join (handlers.map (handled time r cause))
      = String.join ((ownHandlers handlers).map (handled time r cause)) := by
  unfold ownHandlers
  induction handlers with
  | nil => rfl
  | cons h hs ih =>
    rw [List.map_cons, String.join_cons, ih]
    cases h with
    | own serial =>
      rw [List.filter_cons_of_pos rfl, List.map_cons, String.join_cons]
    | foreign id =>
      rw [List.filter_cons_of_neg (by simp [Handler.isOwn])]
      exact String.empty_append

theorem passes_eq_false_iff {level : Int} :
    s.passes level = false ↔ level ≤ 0 ∨ level < s.threshold := by
  unfold passes
  simp only [Bool.and_eq_false_iff, decide_eq_false_iff_not]
  omega

theorem met_of_inPackage {r : Record} (hsource : inPackage r.source = true) : s.met r = s :=
  if_pos hsource

/-- With one handler of the program, a message that is passed on is written once. -/
theorem emit_of_own (hown : (ownHandlers s.handlers).length = 1) (time : String) {r : Record}
    (hsource : inPackage r.source = true) (cause : Option Cause) :
    s.emit time r cause = if s.passes r.level then formatted time r cause else "" := by
  obtain ⟨h, hh⟩ := List.length_eq_one_iff.mp hown
  have hmem : h ∈ s.handlers ∧ h.isOwn = true := by
    rw [← List.mem_filter]
    unfold ownHandlers at hh
    rw [hh]
    exact List.mem_singleton.mpr rfl
  have hne : s.handlers.isEmpty = false := by
    rw [List.isEmpty_eq_false_iff]
    exact List.ne_nil_of_mem hmem.1
  have hwritten : String.join (s.handlers.map (handled time r cause)) = formatted time r cause := by
    rw [join_handled, hh]
    cases h with
    | own serial => exact String.empty_append
    | foreign id => cases hmem.2
  unfold emit
  simp only [met_of_inPackage hsource, hne, Bool.false_eq_true, if_false, hwritten]

/-- A message that is passed on is written once, unless its level has no text. -/
theorem call_log_of_own (hown : (ownHandlers s.handlers).length = 1) (time : String) {r : Record}
    (hsource : inPackage r.source = true) (cause : Option Cause) :
    s.call (.log time r cause)
      = (s, if r.level ≤ 0 ∨ r.level < s.threshold then .wrote ""
          else if r.hasLevelText then .wrote (formatted time r cause)
          else .broke (.longInteger longestNumeral)) := by
  unfold call
  simp only [met_of_inPackage hsource, emit_of_own hown time hsource cause]
  by_cases hdropped : r.level ≤ 0 ∨ r.level < s.threshold
  · simp [hdropped, passes_eq_false_iff.mpr hdropped]
  · have hpasses : s.passes r.level = true :=
      eq_true_of_ne_false (mt passes_eq_false_iff.mp hdropped)
    simp only [hdropped, if_false, hpasses, Bool.true_and, if_true]
    cases r.hasLevelText <;> rfl

end Setup

theorem formatted_ne_empty (time : String) (r : Record) (cause : Option Cause) :
    formatted time r cause ≠ "" := by
  unfold formatted withCause
  intro h
  have hlength := congrArg String.length h
  simp at hlength

/-! ## Main theorem -/

/-- **The log follows its calls.** After any calls there is one handler of
    the program if a level was accepted and none otherwise, the handlers of
    others are all there in their order, and the level is the last one that
    was accepted. A level that stands for a number is accepted; one that is
    refused changes nothing. Once a level was accepted, a message from the
    program is written once, unless it is below the level, has no level
    above zero, or has a level whose number is too long for a text, and then
    nothing is written; an error of the program adds nothing to it. -/
theorem setup_follows_calls (calls : List Call) :
    let s := (({} : Setup).run calls).1
    let past := (({} : Setup).run calls).2
    past.map Prod.fst = calls
    ∧ s.Reflects past
    ∧ (∀ level n, Denotes level n → (s.call (.configure level)).2 = .done)
    ∧ (∀ level fault, (s.call (.configure level)).2 = .refused fault →
        (s.call (.configure level)).1 = s)
    ∧ ((lastLevel? past).isSome → ∀ time r, inPackage r.source = true →
        (∀ cause, s.call (.log time r cause)
          = (s, if r.level ≤ 0 ∨ r.level < s.threshold then .wrote ""
              else if r.hasLevelText then .wrote (formatted time r cause)
              else .broke (.longInteger longestNumeral)))
        ∧ ∀ e, s.call (.log time r (some (.known e))) = s.call (.log time r none)) := by
  intro s past
  have hreflects : s.Reflects past := Setup.reflects_start.run calls
  refine ⟨Setup.run_calls _ calls, hreflects, ?_, ?_, ?_⟩
  · intro level n hn
    rw [Setup.call_of_denotes hn]
  · intro level fault hfault
    rcases s.call_configure_cases level with ⟨n, -, hcall⟩ | ⟨fault', -, hcall⟩
    · rw [hcall] at hfault
      cases hfault
    · rw [hcall]
  · intro hlevel time r hsource
    have hown : (ownHandlers s.handlers).length = 1 := by
      rw [hreflects.own, if_pos hlevel]
    have hwritten := Setup.call_log_of_own hown time hsource
    refine ⟨hwritten, ?_⟩
    intro e
    rw [hwritten, hwritten]
    rfl

/-- The theorem at calls with a refused level and with a handler that comes twice. -/
theorem setup_follows_calls_at_refusal :
    let s := (({} : Setup).run [.addForeign 7, .configure (.text "info"), .addForeign 4,
      .configure (.text "loud"), .addForeign 7]).1
    (ownHandlers s.handlers).length = 1 ∧ foreignIds s.handlers = [7, 4]
      ∧ Denotes (.text "Info") 20 ∧ (s.call (.configure (.text "Info"))).2 = .done
      ∧ (s.call (.configure (.text "loud"))).2 = .refused (.unknown "loud")
      ∧ (s.call (.configure (.text "loud"))).1 = s
      ∧ inPackage package = true
      ∧ ∀ message, s.call (.log "now" ⟨package, 30, message⟩ none)
          = (s, .wrote (formatted "now" ⟨package, 30, message⟩ none)) := by
  intro s
  obtain ⟨-, hreflects, haccepted, hrefused, hwritten⟩ := setup_follows_calls [.addForeign 7,
    .configure (.text "info"), .addForeign 4, .configure (.text "loud"), .addForeign 7]
  have hupper : Text.upper "Info" = LevelName.info.text := by decide
  have hinfo : Denotes (.text "Info") 20 := .name hupper
  have hloud : (s.call (.configure (.text "loud"))).2 = .refused (.unknown "loud") := rfl
  have hsource : inPackage package = true := by decide
  refine ⟨hreflects.own, hreflects.foreign, hinfo, haccepted _ _ hinfo, hloud, hrefused _ _ hloud,
    hsource, ?_⟩
  intro message
  have hlevel : (⟨package, 30, message⟩ : Record).hasLevelText = true := by
    show decide ((30 : Int).natAbs < Nat.pow 10 longestNumeral) = true
    decide +kernel
  have hcall := (hwritten rfl "now" ⟨package, 30, message⟩ hsource).1 none
  rw [if_pos hlevel] at hcall
  exact hcall

/-- The level alone does not decide: a message whose level is not above zero
    is not written even where it reaches the level. -/
theorem message_below_zero_is_dropped :
    ¬ ∀ (calls : List Call) (time : String) (r : Record) (cause : Option Cause),
      (lastLevel? (({} : Setup).run calls).2).isSome → inPackage r.source = true →
        let s := (({} : Setup).run calls).1
        (r.level < s.threshold ∧ s.call (.log time r cause) = (s, .wrote ""))
          ∨ s.call (.log time r cause) = (s, .wrote (formatted time r cause)) := by
  intro hclaim
  have hdropped : (({} : Setup).run [.configure (.int (-5))]).1.call
      (.log "now" ⟨package, -3, "m"⟩ none)
        = ((({} : Setup).run [.configure (.int (-5))]).1, .wrote "") := rfl
  rcases hclaim [.configure (.int (-5))] "now" ⟨package, -3, "m"⟩ none rfl (by decide)
    with ⟨hbelow, -⟩ | hwritten
  · exact absurd hbelow (by decide)
  · have hempty := (Prod.ext_iff.mp (hdropped.symm.trans hwritten)).2
    exact formatted_ne_empty _ _ _ (Answer.wrote.inj hempty).symm

end RoleGuard.Log

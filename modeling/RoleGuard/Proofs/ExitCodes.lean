import RoleGuard.Proofs.Json
import RoleGuard.Proofs.Remedy
import RoleGuard.Proofs.Running

/-! # Exit Codes

    Whoever calls the program looks at the exit code first. Exit code 2
    stands for errors before the first finding, so nothing was printed;
    exit code 1 for a role that the operator cannot create, and 0 for the
    rest. The findings are computed after the loading and printed as one
    text, so the code never depends on how they are printed.
-/

namespace RoleGuard

namespace Grantor

variable {g : Grantor} {q : Request} {qs : List Request}

/-! ## Failing roles -/

/-- Some rule of the role is covered by no rule of the grantor. -/
def Fails (g : Grantor) (q : Request) : Prop :=
  ∃ r ∈ q.rules, ∀ held ∈ g.granted, held.covers r = false

instance (g : Grantor) (q : Request) : Decidable (g.Fails q) :=
  inferInstanceAs (Decidable (∃ r ∈ q.rules, ∀ held ∈ g.granted, held.covers r = false))

theorem check_eq_none_iff_not_fails : g.check q = none ↔ ¬ g.Fails q := by
  unfold Fails
  simp only [check_eq_none_iff, ← canGrant_eq_false_iff, not_exists, not_and, Bool.not_eq_false]

theorem report_ok_iff_not_fails : (g.report qs).ok = true ↔ ∀ q ∈ qs, ¬ g.Fails q := by
  simp only [report_ok_iff, check_eq_none_iff_not_fails]

end Grantor

namespace CommandLine

variable {env : Environment} {host : Host} {time time' : String} {arguments : List String}
  {a : Arguments} {s : Settings} {g : Grantor} {qs : List Request} {e : Error} {o : Output}
  {d : Defect} {roles : List String} {format : Format}

/-! ## The output of a run that returns -/

theorem output_of_loaded (ha : read arguments = .ok a)
    (ho : run env host time arguments = .ok o) (h : Loaded env host a s g qs) :
    o.exit = (outcome s g qs a.command).1 ∧ o.stdout = (outcome s g qs a.command).2 := by
  obtain ⟨messages, hrun⟩ := runWith_of_loaded time h
  rw [run_of_read ha, hrun] at ho
  cases ho
  exact ⟨rfl, rfl⟩

theorem output_of_refused (ha : read arguments = .ok a)
    (ho : run env host time arguments = .ok o) (h : Refused env host a e) :
    o.exit = .unloaded ∧ o.stdout = ""
      ∧ ∃ messages, o.stderr = messages ++ ("Error: " ++ e.message ++ "\n") := by
  obtain ⟨messages, hrun⟩ := runWith_of_refused time h
  rw [run_of_read ha, hrun] at ho
  cases ho
  exact ⟨rfl, rfl, messages, rfl⟩

theorem loaded_or_refused (ha : read arguments = .ok a)
    (ho : run env host time arguments = .ok o) :
    (∃ s g qs, Loaded env host a s g qs) ∨ ∃ e, Refused env host a e := by
  rcases ends_cases env host a with hloaded | hrefused | ⟨d, hbroken⟩
  · exact Or.inl hloaded
  · exact Or.inr hrefused
  · rw [run_of_read ha, runWith_of_broken time hbroken] at ho
    cases ho

/-! ## Exit codes of the commands -/

theorem outcome_exit_ne_unloaded (s : Settings) (g : Grantor) (qs : List Request) (c : Command) :
    (outcome s g qs c).1 ≠ .unloaded := by
  cases c with
  | validate roles format =>
    unfold outcome
    dsimp only
    split <;> simp
  | audit format => simp [outcome]
  | suggest role => simp [outcome]

theorem code_eq_two_iff (ha : read arguments = .ok a)
    (ho : run env host time arguments = .ok o) :
    o.exit.code = 2 ↔ ∃ e, Refused env host a e := by
  constructor
  · intro hcode
    rcases loaded_or_refused ha ho with ⟨s, g, qs, hloaded⟩ | hrefused
    · have hexit : o.exit = .unloaded := by
        cases hx : o.exit <;> simp_all [Exit.code]
      rw [(output_of_loaded ha ho hloaded).1] at hexit
      exact absurd hexit (outcome_exit_ne_unloaded s g qs a.command)
    · exact hrefused
  · rintro ⟨e, hrefused⟩
    rw [(output_of_refused ha ho hrefused).1]
    rfl

theorem exists_loaded (ha : read arguments = .ok a) (ho : run env host time arguments = .ok o)
    (hcode : o.exit.code ≠ 2) : ∃ s g qs, Loaded env host a s g qs := by
  rcases loaded_or_refused ha ho with hloaded | hrefused
  · exact hloaded
  · exact absurd ((code_eq_two_iff ha ho).mpr hrefused) hcode

/-- The exit code of a validation that loaded everything. -/
theorem code_of_validate (ha : read arguments = .ok a)
    (ho : run env host time arguments = .ok o) (hc : a.command = .validate roles format)
    (h : Loaded env host a s g qs) :
    o.exit.code = if ∀ q ∈ qs, ¬ g.Fails q then 0 else 1 := by
  rw [(output_of_loaded ha ho h).1, hc]
  unfold outcome
  simp only [Grantor.report_ok_iff_not_fails]
  split <;> rfl

theorem validate_code_eq_one_iff (ha : read arguments = .ok a)
    (ho : run env host time arguments = .ok o) (hc : a.command = .validate roles format) :
    o.exit.code = 1 ↔ ∃ s g qs, Loaded env host a s g qs ∧ ∃ q ∈ qs, g.Fails q := by
  constructor
  · intro hcode
    obtain ⟨s, g, qs, h⟩ := exists_loaded ha ho (by omega)
    rw [code_of_validate ha ho hc h] at hcode
    refine ⟨s, g, qs, h, ?_⟩
    by_contra hnone
    rw [if_pos (by simpa using hnone)] at hcode
    omega
  · rintro ⟨s, g, qs, h, q, hq, hfails⟩
    rw [code_of_validate ha ho hc h, if_neg fun hnone => hnone q hq hfails]

end CommandLine

end RoleGuard

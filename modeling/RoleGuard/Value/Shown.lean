import RoleGuard.Defect
import RoleGuard.Value.Text

/-! # Values That Can Be Shown

    Not every value has a text. An integer is shown up to a number of
    digits, and a value inside of values up to a number of levels. The first
    obstacle that is met on the way through a value is what ends the
    showing.
-/

namespace RoleGuard.Value

/-- How much of a value can be shown. -/
structure Limits where
  /-- the most digits of an integer -/
  digits : Nat := longestNumeral
  /-- the most levels of collections -/
  depth : Nat := 960
deriving DecidableEq, Repr, Inhabited

mutual

/-- Why a value cannot be shown when so many levels of collections can. -/
def obstacleAt? (digits : Nat) : Nat → Value → Option Defect
  | _, int n => if Nat.pow 10 digits ≤ n.natAbs then some (.longInteger digits) else none
  | 0, list _ | 0, set _ | 0, map _ => some .tooDeep
  | depth + 1, list items => obstacleAmong? digits depth items
  | depth + 1, set items => obstacleAmong? digits depth items
  | depth + 1, map entries => obstacleWithin? digits depth entries
  | _, _ => none

/-- Why one of some values cannot be shown. -/
def obstacleAmong? (digits depth : Nat) : List Value → Option Defect
  | [] => none
  | v :: vs => (obstacleAt? digits depth v).or (obstacleAmong? digits depth vs)

/-- Why one of some entries cannot be shown. -/
def obstacleWithin? (digits depth : Nat) : List (Value × Value) → Option Defect
  | [] => none
  | (k, v) :: es =>
    (obstacleAt? digits depth k).or <|
      (obstacleAt? digits depth v).or (obstacleWithin? digits depth es)

end

/-- Why a value cannot be shown. -/
def obstacle? (limits : Limits) (v : Value) : Option Defect :=
  obstacleAt? limits.digits limits.depth v

/-- A form of a value, unless the value cannot be shown. -/
def shown (limits : Limits) (form : Value → String) (v : Value) : Except Defect String :=
  match obstacle? limits v with
  | some d => .error d
  | none => .ok (form v)

/-- Texts can always be shown. -/
@[simp] theorem obstacle?_text (limits : Limits) (s : String) :
    obstacle? limits (text s) = none := by
  unfold obstacle?
  cases limits.depth <;> rfl

theorem obstacle?_int (limits : Limits) (n : Int) :
    obstacle? limits (int n)
      = if Nat.pow 10 limits.digits ≤ n.natAbs then some (.longInteger limits.digits)
        else none := by
  unfold obstacle?
  cases limits.depth <;> rfl

/-- An integer with one digit too many cannot be shown. -/
theorem obstacle?_pow {limits : Limits} {k : Nat} (h : limits.digits ≤ k) :
    obstacle? limits (int (Nat.pow 10 k)) = some (.longInteger limits.digits) := by
  rw [obstacle?_int, if_pos]
  rw [Int.natAbs_natCast]
  exact Nat.pow_le_pow_right (by decide) h

@[simp] theorem shown_eq_ok {limits : Limits} {form : Value → String} {v : Value} {s : String} :
    shown limits form v = .ok s ↔ obstacle? limits v = none ∧ form v = s := by
  unfold shown
  cases obstacle? limits v <;> simp

@[simp] theorem shown_eq_error {limits : Limits} {form : Value → String} {v : Value} {d : Defect} :
    shown limits form v = .error d ↔ obstacle? limits v = some d := by
  unfold shown
  cases obstacle? limits v <;> simp

end RoleGuard.Value

import Scriptlet.Proofs.Decimal.Magnitude
import Scriptlet.Value.Basic

/-!
Values that are looked at as real numbers.

Main statements: an integer widens to the double nearest to it, which is finite, so that a value is
looked at as NaN or as an infinity only if it is one.
-/

namespace Scriptlet.Value

open Decimal

/-- Whether a value is the real number NaN. -/
def isNaN : Value → Bool
  | real x => x.isNaN
  | _ => false

/-- Whether a value is neither an infinity nor NaN. -/
def isFinite : Value → Bool
  | real x => x.isFinite
  | _ => true

/-- A natural number is read as the double nearest to it. -/
theorem nearest_ofNat (n : Nat) : Nearest (Float.ofNat n) n := by
  rcases Nat.eq_zero_or_pos n with rfl | pos
  · -- There are no digits to be rounded in zero.
    have zero : IsDouble (Float.ofNat 0) false 0 (-1074) := ⟨rfl, rfl, rfl, rfl⟩
    exact nearest_of_small (by simp) (by rw [Nat.cast_zero]; positivity) zero
  · have near := nearest_ofScientific pos 0
    rw [zpow_zero, mul_one] at near
    exact near.toNearest

/-- An integer widens to the double nearest to it. -/
theorem nearest_widen (n : Int64) : Nearest (widen n) n.toInt := by
  -- An integer is natural, or it is the negative of a natural number.
  unfold widen
  cases n.toInt with
  | ofNat m =>
    exact nearest_ofNat m
  | negSucc m =>
    rw [Int.cast_negSucc]
    exact (nearest_ofNat (m + 1)).neg

/-- Only NaN widens to NaN. -/
theorem isNaN_of_real? {value : Value} {x : Float} (found : value.real? = some x) :
    x.isNaN = value.isNaN := by
  -- An integer widens to a number, and a real number stays what it is.
  cases value with
  | integer n =>
    obtain rfl : widen n = x := by simpa [real?] using found
    exact (nearest_widen n).number
  | real y =>
    obtain rfl : y = x := by simpa [real?] using found
    rfl
  | string | boolean | list | function => cases found

/-- An integer widens to a finite number. -/
theorem isFinite_widen (n : Int64) : (widen n).isFinite = true := by
  have near := nearest_widen n
  -- Zero is a double as well, and the nearest one is not farther off.
  have close := near.nearest 0.0 isDouble_positiveZero.number
  have bound : |(n.toInt : ℚ)| ≤ 2 ^ 63 := by
    have low := n.le_toInt
    have high := n.toInt_lt
    rw [abs_le]
    exact ⟨by exact_mod_cast low, by exact_mod_cast high.le⟩
  rw [exact_positiveZero, sub_zero] at close
  refine isFinite_iff.mpr ⟨near.number, ?_⟩
  calc |exact (widen n)|
      = |(n.toInt : ℚ) - (n.toInt - exact (widen n))| := by rw [sub_sub_cancel]
    _ ≤ |(n.toInt : ℚ)| + |(n.toInt : ℚ) - exact (widen n)| := abs_sub _ _
    _ ≤ 2 ^ 63 + 2 ^ 63 := add_le_add bound (close.trans bound)
    _ = 2 ^ 64 := by norm_num
    _ < 2 ^ 1024 := pow_lt_pow_right₀ (by norm_num) (by norm_num)

/-- A number is looked at as a real number that is finite if it is. -/
theorem exists_real? {value : Value} (number : value.type ∈ [.integer, .real]) :
    ∃ x, value.real? = some x ∧ x.isFinite = value.isFinite := by
  -- There are two kinds of numbers.
  cases value with
  | integer n => exact ⟨_, rfl, isFinite_widen n⟩
  | real x => exact ⟨_, rfl, rfl⟩
  | string | boolean | list | function => simp [type] at number

end Scriptlet.Value

import Scriptlet.Operator
import Scriptlet.Proofs.Value.Widening

/-!
Equality up to a tolerance.

Main statements: the scale of two numbers is the largest of their sizes and one, equality up to a
tolerance does not tell its operands apart, and every finite number is equal to itself. An infinity
is not, as it has no distance from itself that could be measured.
-/

namespace Scriptlet.Operator

open Decimal

variable {x y tolerance : Float} {left right : Value}

/-! The scale of two numbers. -/

/-- What the tolerance is multiplied with. -/
def scale (x y : Float) : Float :=
  larger (larger 1.0 x.abs) y.abs

/-- Two numbers are close if their distance is at most the tolerance of their scale. -/
theorem close_eq (tolerance x y : Float) :
    close tolerance x y = decide ((x - y).abs ≤ tolerance * scale x y) :=
  rfl

/-- The larger of two numbers is one of them. -/
theorem larger_cases (x y : Float) : larger x y = x ∨ larger x y = y := by
  -- Whichever way the tests go, one of the two is given.
  unfold larger
  split_ifs <;> simp

/-- The larger of two numbers is the larger one of what they are exactly. -/
theorem exact_larger (number : x.isNaN = false) (number' : y.isNaN = false) :
    exact (larger x y) = max (exact x) (exact y) := by
  -- Without NaN the choice goes by what the numbers are exactly.
  simp only [larger, number, number', Bool.false_eq_true, if_false, lt_iff_exact_lt number number']
  split_ifs with less
  · rw [max_eq_right less.le]
  · rw [max_eq_left (not_lt.mp less)]

/-- The larger of two numbers without a sign is without one. -/
theorem unsigned_larger (unsigned : Unsigned x) (unsigned' : Unsigned y) :
    Unsigned (larger x y) := by
  -- It is one of the two.
  rcases larger_cases x y with same | same <;> rw [same] <;> assumption

/-- One has no sign. -/
theorem unsigned_one : Unsigned 1.0 := ⟨by decide, by decide⟩

/-- One is exactly one. -/
theorem exact_one : exact 1.0 = 1 := by
  -- The bits are those of a power of two, scaled down by as much.
  have double : IsDouble 1.0 false (2 ^ 52) (-52) := ⟨by decide, by decide, by decide, by decide⟩
  rw [double.exact_eq, if_neg Bool.false_ne_true]
  norm_num

/-- The scale has no sign. -/
theorem unsigned_scale (number : x.isNaN = false) (number' : y.isNaN = false) :
    Unsigned (scale x y) :=
  unsigned_larger (unsigned_larger unsigned_one (unsigned_abs number)) (unsigned_abs number')

/-- The scale is exactly the largest of one and the sizes of the numbers. -/
theorem exact_scale (number : x.isNaN = false) (number' : y.isNaN = false) :
    exact (scale x y) = max (max 1 |exact x|) |exact y| := by
  -- None of the three is NaN, so that the larger one is known exactly.
  have first := unsigned_larger unsigned_one (unsigned_abs number)
  rw [scale, exact_larger first.number (unsigned_abs number').number,
    exact_larger unsigned_one.number (unsigned_abs number).number, exact_one, exact_abs number,
    exact_abs number']

/-- The size of a finite number is finite. -/
theorem isFinite_abs (finite : x.isFinite = true) : x.abs.isFinite = true := by
  -- To drop the sign leaves the number below the same bound.
  obtain ⟨number, below⟩ := isFinite_iff.mp finite
  rw [isFinite_iff, exact_abs number, abs_abs]
  exact ⟨(unsigned_abs number).number, below⟩

/-- The scale of finite numbers is one of them, or one. -/
theorem isFinite_scale (finite : x.isFinite = true) (finite' : y.isFinite = true) :
    (scale x y).isFinite = true := by
  have one : (1.0 : Float).isFinite = true := by decide
  unfold scale
  -- It is the last size, or the larger one of the first size and one.
  rcases larger_cases (larger 1.0 x.abs) y.abs with same | same <;> rw [same]
  · rcases larger_cases 1.0 x.abs with same | same <;> rw [same]
    · exact one
    · exact isFinite_abs finite
  · exact isFinite_abs finite'

/-- Which number comes first makes no difference for what the tolerance is multiplied to. -/
theorem mul_scale_comm (tolerance : Float) (number : x.isNaN = false) (number' : y.isNaN = false) :
    tolerance * scale x y = tolerance * scale y x := by
  refine mul_congr_right tolerance ?_
  -- The largest of three numbers is the same in any order, but may be given with other bits.
  refine (unsigned_scale number number').unpack_eq (unsigned_scale number' number) ?_
  rw [exact_scale number number', exact_scale number' number, max_right_comm]

/-! The laws. -/

/-- Nothing is close to NaN. -/
theorem close_of_isNaN (nan : x.isNaN = true ∨ y.isNaN = true) : close tolerance x y = false := by
  -- The distance is NaN, and NaN is not at most anything.
  rw [close_eq, decide_eq_false_iff_not]
  exact not_le_of_isNaN (.inl (isNaN_abs (isNaN_sub nan)))

/-- Equality up to a tolerance is symmetric. -/
theorem close_comm (tolerance x y : Float) : close tolerance x y = close tolerance y x := by
  -- NaN is looked at by itself, as it has no scale.
  by_cases nan : x.isNaN = true ∨ y.isNaN = true
  · -- Nothing is close to NaN, from whichever side.
    rw [close_of_isNaN nan, close_of_isNaN nan.symm]
  · simp only [not_or, Bool.not_eq_true] at nan
    rw [close_eq, close_eq, abs_sub_comm, mul_scale_comm tolerance nan.1 nan.2]

/-- Equality up to a tolerance is reflexive for finite numbers, and for no others. -/
theorem close_self (finite : tolerance.isFinite = true) (low : 0.0 ≤ tolerance) (x : Float) :
    close tolerance x x = x.isFinite := by
  -- It is close to itself if its distance from itself is within the tolerance.
  rw [close_eq]
  cases finite' : x.isFinite with
  | false =>
    -- An infinity taken from itself leaves NaN.
    rw [decide_eq_false_iff_not]
    exact not_le_of_isNaN (.inl (isNaN_abs (isNaN_sub_self finite')))
  | true =>
    have number := (isFinite_iff.mp finite').1
    have scaled := isFinite_scale finite' finite'
    have large : 1 ≤ exact (scale x x) := by
      rw [exact_scale number number]
      exact (le_max_left _ _).trans (le_max_left _ _)
    obtain ⟨number', amount⟩ := zero_le_iff.mp (zero_le_mul finite low scaled large)
    -- The distance is zero, and the tolerance of the scale is not less.
    have none := (sub_self_of_isFinite finite').abs
    rw [decide_eq_true_iff, le_iff_exact_le none.number number', none.exact_eq]
    simpa using amount

/-- Equality up to a tolerance is symmetric for numbers, and reflexive for those that are finite. -/
theorem approximatelyEqual_laws {tolerance : Float} (finite : tolerance.isFinite = true)
    (low : 0.0 ≤ tolerance) {left right : Value} (number : left.type ∈ [.integer, .real])
    (number' : right.type ∈ [.integer, .real]) :
    applyBinary tolerance .approximatelyEqual left left = .ok (.boolean left.isFinite) ∧
      ∃ near : Bool, applyBinary tolerance .approximatelyEqual left right = .ok (.boolean near) ∧
        applyBinary tolerance .approximatelyEqual right left = .ok (.boolean near) := by
  -- Each operand is looked at as a real number, whose finiteness is its own.
  obtain ⟨x, found, bounded⟩ := Value.exists_real? number
  obtain ⟨y, found', -⟩ := Value.exists_real? number'
  have answer {a b : Value} {u v : Float} (found : a.real? = some u) (found' : b.real? = some v) :
      applyBinary tolerance .approximatelyEqual a b = .ok (.boolean (close tolerance u v)) := by
    simp only [applyBinary, compareClose, found, found', Except.map]
  refine ⟨?_, close tolerance x y, answer found found', ?_⟩
  · rw [answer found found, close_self finite low, bounded]
  · rw [answer found' found, close_comm]

/-- The laws for an integer and an infinity, at the tolerance that holds unless another is set. -/
theorem approximatelyEqual_laws_one :
    applyBinary 1e-6 .approximatelyEqual (.integer 1) (.integer 1) = .ok (.boolean true) ∧
      ∃ near : Bool,
        applyBinary 1e-6 .approximatelyEqual (.integer 1) (.real Float.inf) =
            .ok (.boolean near) ∧
          applyBinary 1e-6 .approximatelyEqual (.real Float.inf) (.integer 1) =
            .ok (.boolean near) :=
  approximatelyEqual_laws (by decide) (by decide) (by decide) (by decide)

/-- An infinity is not equal to itself, so that NaN is not the only number that is not. -/
theorem approximatelyEqual_infinity :
    ¬∀ (tolerance : Float) (left right : Value), tolerance.isFinite = true → 0.0 ≤ tolerance →
      left.type ∈ [.integer, .real] → right.type ∈ [.integer, .real] →
      (left.isNaN = false →
        applyBinary tolerance .approximatelyEqual left left = .ok (.boolean true)) ∧
      ∃ near : Bool, applyBinary tolerance .approximatelyEqual left right = .ok (.boolean near) ∧
        applyBinary tolerance .approximatelyEqual right left = .ok (.boolean near) := by
  intro claim
  -- Infinity and one are numbers, and the first of them is not NaN.
  have equal := (claim 1e-6 (.real Float.inf) (.integer 1) (by decide)
    (by decide) (by decide) (by decide)).1 (by decide)
  exact absurd equal (by decide)

end Scriptlet.Operator

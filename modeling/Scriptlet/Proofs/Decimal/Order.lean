import Scriptlet.Proofs.Decimal.Double

/-!
The order of doubles is that of the exact numbers that they are.

Main statements: two doubles compare as their exact numbers do, unless one of them is NaN, and then
they do not compare at all.
-/

namespace Scriptlet.Decimal

open Float.Model Float.Model.UnpackedFloat

variable {x y : Float} {significand significand' : Nat} {exponent exponent' : Int}
  {negative negative' : Bool}

/-- Of two sizes that fit, the one of the larger exponent is larger. -/
theorem size_lt_size (fits : Fits significand exponent) (fits' : Fits significand' exponent')
    (less : exponent < exponent') :
    (significand * 2 ^ exponent : ℚ) < significand' * 2 ^ exponent' := by
  have full : 2 ^ 52 ≤ significand' := fits'.full.resolve_right (by have := fits.least; omega)
  have full : (2 : ℚ) ^ 52 ≤ significand' := by exact_mod_cast full
  have short : (significand : ℚ) < 2 ^ 53 := by exact_mod_cast fits.below
  -- A full significand is at least half of any other, which one step of the exponent makes up for.
  calc (significand : ℚ) * 2 ^ exponent
      < 2 ^ 53 * 2 ^ exponent := by gcongr
    _ = 2 ^ 52 * 2 ^ (exponent + 1) := by
      rw [zpow_add_one₀ (by norm_num)]
      ring
    _ ≤ significand' * 2 ^ exponent' := by
      gcongr
      · norm_num
      · omega

/-- Sizes that fit are compared by their exponents first. -/
theorem compare_size (fits : Fits significand exponent) (fits' : Fits significand' exponent') :
    (compare exponent exponent').then (compare significand significand') =
      compare (significand * 2 ^ exponent : ℚ) (significand' * 2 ^ exponent') := by
  -- The exponents decide, unless they are the same.
  rcases lt_trichotomy exponent exponent' with less | rfl | more
  · rw [compare_lt_iff_lt.mpr less, compare_lt_iff_lt.mpr (size_lt_size fits fits' less)]
    rfl
  · -- At one and the same exponent it is up to the significands.
    have scale : (0 : ℚ) < 2 ^ exponent := by positivity
    rw [compare_eq_iff_eq.mpr rfl]
    rcases lt_trichotomy significand significand' with less | rfl | more
    · have : (significand : ℚ) * 2 ^ exponent < significand' * 2 ^ exponent := by gcongr
      rw [compare_lt_iff_lt.mpr less, compare_lt_iff_lt.mpr this]
      rfl
    · simp
    · have : (significand' : ℚ) * 2 ^ exponent < significand * 2 ^ exponent := by gcongr
      rw [compare_gt_iff_gt.mpr more, compare_gt_iff_gt.mpr this]
      rfl
  · rw [compare_gt_iff_gt.mpr more, compare_gt_iff_gt.mpr (size_lt_size fits' fits more)]
    rfl

/-- What a number of a sign and a size is unpacked to. -/
inductive Kind (x : Float) (negative : Bool) : Nat → Int → Prop where
  /-- An infinity has a size of its own. -/
  | infinity (unpacked : x.toModel.unpack = .infinity (signOf negative)) :
    Kind x negative (2 ^ 52) 972
  /-- A zero has no significand. -/
  | zero {exponent : Int} (unpacked : x.toModel.unpack = .zero (signOf negative))
    (small : exponent < 972) : Kind x negative 0 exponent
  /-- Any other number keeps its size. -/
  | finite {significand : Nat} {exponent : Int} (pos : 0 < significand)
    (unpacked : x.toModel.unpack = .finite (signOf negative) significand exponent pos)
    (small : exponent < 972) : Kind x negative significand exponent

/-- A number of a sign and a size is of one of the three kinds. -/
theorem IsDouble.kind (double : IsDouble x negative significand exponent) :
    Kind x negative significand exponent := by
  -- Only the infinities have the largest exponent.
  obtain ⟨-, most | ⟨rfl, rfl⟩⟩ := double.fits
  -- Finite numbers are told apart by whether they have a significand.
  · rcases Nat.eq_zero_or_pos significand with rfl | pos
    · exact .zero double.unpack_zero (by omega)
    · exact .finite pos (double.unpack_finite most pos) (by omega)
  · exact .infinity double.unpack_infinity

/-- Signed sizes are in the order of the sizes, or in that of the signs where these differ. -/
theorem compare_signed {a b : ℚ} (low : 0 ≤ a) (low' : 0 ≤ b) :
    compare (if negative then -a else a) (if negative' then -b else b) =
      if negative = negative' then
        if negative then (compare a b).swap else compare a b
      else if a = 0 ∧ b = 0 then .eq
      else if negative then .lt else .gt := by
  -- Below zero, the order of the sizes is turned round.
  have flip : compare (-a) (-b) = (compare a b).swap := by
    rcases lt_trichotomy a b with less | rfl | more
    · rw [compare_lt_iff_lt.mpr less, compare_gt_iff_gt.mpr (neg_lt_neg less)]
      rfl
    · rw [compare_eq_iff_eq.mpr rfl, compare_eq_iff_eq.mpr rfl]
      rfl
    · rw [compare_gt_iff_gt.mpr more, compare_lt_iff_lt.mpr (neg_lt_neg more)]
      rfl
  -- On both sides of zero, they are told apart unless both are zero.
  have apart (some : ¬(a = 0 ∧ b = 0)) : -b < a ∧ -a < b := by
    by_contra none
    exact some ⟨by grind, by grind⟩
  cases negative <;> cases negative' <;>
    simp only [Bool.false_eq_true, if_true, if_false, reduceCtorEq]
  · -- A number below zero against one above.
    split_ifs with none
    · rw [none.1, none.2, neg_zero, compare_eq_iff_eq.mpr rfl]
    · exact compare_gt_iff_gt.mpr (apart none).1
  · -- The same with the two exchanged.
    split_ifs with none
    · rw [none.1, none.2, neg_zero, compare_eq_iff_eq.mpr rfl]
    · exact compare_lt_iff_lt.mpr (apart none).2
  · exact flip

/-- Doubles compare as the numbers of their signs and sizes. -/
theorem IsDouble.compare_eq (double : IsDouble x negative significand exponent)
    (double' : IsDouble y negative' significand' exponent') :
    x.toModel.compare y.toModel = some (compare (exact x) (exact y)) := by
  have sizes := compare_size double.fits.1 double'.fits.1
  have low : (0 : ℚ) ≤ significand * 2 ^ exponent := by positivity
  have low' : (0 : ℚ) ≤ significand' * 2 ^ exponent' := by positivity
  have none : (significand * 2 ^ exponent : ℚ) = 0 ∧ (significand' * 2 ^ exponent' : ℚ) = 0 ↔
      significand = 0 ∧ significand' = 0 := by
    have two (scale : Int) : (2 : ℚ) ^ scale ≠ 0 := by positivity
    simp only [mul_eq_zero, Nat.cast_eq_zero, two, or_false]
  rw [double.exact_eq, double'.exact_eq, compare_signed low low', ← sizes]
  simp only [none]
  change UnpackedFloat.compare _ _ = _
  -- An infinity is told from the other numbers by its exponent, and a zero by its size.
  rcases double.kind with ⟨shape⟩ | ⟨shape, small⟩ | ⟨pos, shape, small⟩ <;>
    rcases double'.kind with ⟨shape'⟩ | ⟨shape', small'⟩ | ⟨pos', shape', small'⟩ <;>
    rw [shape, shape']
  case infinity.infinity => cases negative <;> cases negative' <;> rfl
  case infinity.zero | infinity.finite =>
    rw [Int.compare_eq_gt.mpr small']
    cases negative <;> cases negative' <;> rfl
  case zero.infinity =>
    rw [Int.compare_eq_lt.mpr small]
    cases negative <;> cases negative' <;> rfl
  case zero.zero =>
    rw [sizes, compare_eq_iff_eq.mpr (by simp)]
    cases negative <;> cases negative' <;> rfl
  case zero.finite =>
    have some : ¬(0 = 0 ∧ significand' = 0) := by omega
    rw [if_neg some, sizes, compare_lt_iff_lt.mpr (by rw [Nat.cast_zero, zero_mul]; positivity)]
    cases negative <;> cases negative' <;> rfl
  case finite.infinity =>
    have some : ¬(significand = 0 ∧ 2 ^ 52 = 0) := by omega
    rw [if_neg some, Int.compare_eq_lt.mpr small]
    cases negative <;> cases negative' <;> rfl
  case finite.zero =>
    have some : ¬(significand = 0 ∧ 0 = 0) := by omega
    rw [if_neg some, sizes, compare_gt_iff_gt.mpr (by rw [Nat.cast_zero, zero_mul]; positivity)]
    cases negative <;> cases negative' <;> rfl
  case finite.finite =>
    have some : ¬(significand = 0 ∧ significand' = 0) := by omega
    rw [if_neg some]
    cases negative <;> cases negative' <;> rfl

/-- Numbers compare as what they are exactly. -/
theorem compare_eq (number : x.isNaN = false) (number' : y.isNaN = false) :
    x.toModel.compare y.toModel = some (compare (exact x) (exact y)) :=
  (isDouble_self number).compare_eq (isDouble_self number')

/-- Nothing compares with NaN. -/
theorem compare_eq_none_iff :
    x.toModel.compare y.toModel = none ↔ x.isNaN = true ∨ y.isNaN = true := by
  change UnpackedFloat.compare x.toModel.unpack y.toModel.unpack = none ↔
    x.toModel.unpack.isNaN = true ∨ y.toModel.unpack.isNaN = true
  -- Whatever kinds two numbers are of, there is an answer for their signs.
  rcases x.toModel.unpack with (_ | _) | _ | _ | ⟨_ | _, _, _, _⟩ <;>
    rcases y.toModel.unpack with (_ | _) | _ | _ | ⟨_ | _, _, _, _⟩ <;>
    simp [UnpackedFloat.compare, UnpackedFloat.isNaN]

/-- A comparison turns round when the two change places. -/
theorem compare_swap (x y : Float) :
    y.toModel.compare x.toModel = (x.toModel.compare y.toModel).map .swap := by
  -- With NaN on either side there is no comparison in either order.
  by_cases none : x.isNaN = true ∨ y.isNaN = true
  · rw [compare_eq_none_iff.mpr none, compare_eq_none_iff.mpr none.symm]
    rfl
  · simp only [not_or, Bool.not_eq_true] at none
    rw [compare_eq none.1 none.2, compare_eq none.2 none.1, Option.map_some, Option.some.injEq]
    exact Std.OrientedCmp.eq_swap

/-- The order of doubles is read off their comparison. -/
theorem lt_iff_compare : x < y ↔ x.toModel.compare y.toModel = some .lt := by
  -- The order is decided by a test of that comparison.
  change decide (x.toModel < y.toModel) = true ↔ _
  rw [decide_eq_true_iff]
  change (x.toModel.compare y.toModel == some .lt) = true ↔ _
  rw [beq_iff_eq]

/-- So is the order that admits equality. -/
theorem le_iff_compare :
    -- The order is decided by a test of that comparison.
    x ≤ y ↔ (x.toModel.compare y.toModel).any (·.isLE) = true := by
  change decide (x.toModel ≤ y.toModel) = true ↔ _
  rw [decide_eq_true_iff]
  rfl

/-- And so is equality. -/
theorem beq_eq_compare : (x == y) = (x.toModel.compare y.toModel == some .eq) :=
  rfl

/-- Numbers are in the order of their exact values. -/
theorem lt_iff_exact_lt (number : x.isNaN = false) (number' : y.isNaN = false) :
    x < y ↔ exact x < exact y := by
  -- A comparison of numbers is one of exact values.
  rw [lt_iff_compare, compare_eq number number', Option.some.injEq, compare_lt_iff_lt]

/-- Numbers are in the same order as their exact values where equality is admitted. -/
theorem le_iff_exact_le (number : x.isNaN = false) (number' : y.isNaN = false) :
    x ≤ y ↔ exact x ≤ exact y := by
  -- To be at most as large is not to compare as greater.
  rw [le_iff_compare, compare_eq number number', Option.any_some, Ordering.isLE_iff_ne_gt]
  exact compare_le_iff_le

/-- NaN is not at most anything, and nothing is at most NaN. -/
theorem not_le_of_isNaN (none : x.isNaN = true ∨ y.isNaN = true) : ¬x ≤ y := by
  -- Without a comparison, the test of it fails.
  rw [le_iff_compare, compare_eq_none_iff.mpr none]
  exact Bool.false_ne_true

end Scriptlet.Decimal

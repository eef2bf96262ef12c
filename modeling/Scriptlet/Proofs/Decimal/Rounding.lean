import Scriptlet.Proofs.Decimal.Double

/-!
Rounding to whole numbers and to doubles, with halves going to even.

Main statement: what a mantissa with its accuracy stands for is rounded to the double nearest to
it.
-/

namespace Scriptlet.Decimal

open Float.Model Float.Model.UnpackedFloat

/-- Whether a whole number is the one nearest to a number, and even where two are. -/
def RoundsTo (value : ℚ) (n : ℤ) : Prop :=
  |value - n| ≤ 1 / 2 ∧ (|value - n| = 1 / 2 → Even n)

/-- Where a number lies between a mantissa and the next one, with respect to one half. -/
def Located (mantissa : Nat) (value : ℚ) : Accuracy → Prop
  | .exact => value = mantissa
  | .inexact .lt => mantissa < value ∧ value < mantissa + 1 / 2
  | .inexact .eq => value = mantissa + 1 / 2
  | .inexact .gt => mantissa + 1 / 2 < value ∧ value < mantissa + 1

section RoundsTo

variable {value : ℚ} {n : ℤ}

/-- What is rounded lies within half a unit of the result. -/
theorem RoundsTo.bounds (rounds : RoundsTo value n) : n - 1 / 2 ≤ value ∧ value ≤ n + 1 / 2 := by
  obtain ⟨low, high⟩ := abs_le.mp rounds.1
  constructor <;> linarith

/-- Two different whole numbers lie a whole unit apart. -/
theorem one_le_abs_sub {m n : ℤ} (other : m ≠ n) : (1 : ℚ) ≤ |(m : ℚ) - n| := by
  have apart := Int.one_le_abs (sub_ne_zero.mpr other)
  exact_mod_cast apart

/-- No whole number is nearer than the one rounded to, and one as near leaves it even. -/
theorem RoundsTo.nearest (rounds : RoundsTo value n) (m : ℤ) :
    |value - n| ≤ |value - m| ∧ (|value - n| = |value - m| → m = n ∨ Even n) := by
  obtain ⟨near, half⟩ := rounds
  -- The number itself is as near as itself.
  by_cases same : m = n
  · subst same
    exact ⟨le_refl _, fun _ => .inl rfl⟩
  · -- The other number lies at least half a unit away.
    have apart := one_le_abs_sub same
    have across := abs_sub_le (m : ℚ) value n
    rw [abs_sub_comm (m : ℚ) value] at across
    refine ⟨by linarith, fun equal => .inr (half ?_)⟩
    linarith

/-- There is one whole number to round to. -/
theorem RoundsTo.unique {m : ℤ} (first : RoundsTo value m) (second : RoundsTo value n) :
    m = n := by
  -- Otherwise both would be a unit apart, with the value half a unit from each.
  by_contra other
  have apart := one_le_abs_sub other
  have across := abs_sub_le (m : ℚ) value n
  rw [abs_sub_comm (m : ℚ) value] at across
  obtain ⟨near, even⟩ := first
  obtain ⟨near', even'⟩ := second
  -- Both would lie half a unit away, on either side, and both would be even.
  obtain ⟨j, rfl⟩ := even (by linarith)
  obtain ⟨k, rfl⟩ := even' (by linarith)
  have wide : (2 : ℤ) ≤ |j + j - (k + k)| := by
    rcases abs_cases (j + j - (k + k)) with ⟨same, side⟩ | ⟨same, side⟩ <;> omega
  have wide : (2 : ℚ) ≤ |((j + j : ℤ) : ℚ) - (k + k : ℤ)| := by exact_mod_cast wide
  linarith

end RoundsTo

/-! A mantissa is shifted without losing where the number lies. -/

/-- A number lies at its mantissa or above, and below the next one. -/
theorem Located.bounds {mantissa : Nat} {value : ℚ} {accuracy : Accuracy}
    (located : Located mantissa value accuracy) :
    mantissa ≤ value ∧ value < mantissa + 1 := by
  -- Each of the four places is within these bounds.
  unfold Located at located
  split at located <;> constructor <;> linarith

/-- Shifting by one bit halves the number. -/
theorem located_shiftRightOne {extended : ExtendedMantissa} {value : ℚ}
    (located : Located extended.mantissa value extended.accuracy) :
    Located extended.shiftRightOne.mantissa (value / 2) extended.shiftRightOne.accuracy := by
  obtain ⟨mantissa, roundBit, stickyBit⟩ := extended
  have parts : (mantissa : ℚ) = 2 * (mantissa / 2 : ℕ) + (mantissa % 2 : ℕ) := by
    exact_mod_cast (Nat.div_add_mod mantissa 2).symm
  have odd : ((1 : Nat) != 0) = true := rfl
  -- The bit shifted out is the half, and what was there before is what is left.
  rcases Nat.mod_two_eq_zero_or_one mantissa with bit | bit <;> rw [bit] at parts <;>
    cases roundBit <;> cases stickyBit <;>
    simp only [ExtendedMantissa.accuracy, ExtendedMantissa.shiftRightOne, Located, bit,
      odd, bne_self_eq_false, Bool.or_self, Bool.or_true, Bool.true_or] at located ⊢ <;>
    push_cast at parts
  all_goals first | linarith | exact ⟨by linarith, by linarith⟩

/-- Shifting by some bits divides the number by a power of two. -/
theorem located_shiftRight {extended : ExtendedMantissa} {value : ℚ}
    (located : Located extended.mantissa value extended.accuracy) (count : Nat) :
    Located (extended >>> count).mantissa (value / 2 ^ count) (extended >>> count).accuracy := by
  change Located (count.repeat ExtendedMantissa.shiftRightOne extended).mantissa _
    (count.repeat ExtendedMantissa.shiftRightOne extended).accuracy
  -- The bits are shifted out one by one.
  induction count with
  | zero =>
    rw [pow_zero, div_one]
    exact located
  | succ count ih =>
    have further := located_shiftRightOne ih
    rwa [div_div, ← pow_succ] at further

/-- A mantissa that is extended by its accuracy still has both. -/
theorem accuracy_ofMantissaAndAccuracy (mantissa : Nat) (accuracy : Accuracy) :
    (ExtendedMantissa.ofMantissaAndAccuracy mantissa accuracy).mantissa = mantissa ∧
      (ExtendedMantissa.ofMantissaAndAccuracy mantissa accuracy).accuracy = accuracy := by
  -- There are four accuracies to look at.
  rcases accuracy with _ | _ | _ | _ <;> exact ⟨rfl, rfl⟩

/-- Where a quotient lies is told by the remainder. -/
theorem located_accuracyOfFraction (n : Nat) {d : Nat} (pos : 0 < d) :
    Located (n / d) (n / d : ℚ) (accuracyOfFraction (n % d) d) := by
  have positive : (0 : ℚ) < d := by exact_mod_cast pos
  have split : (n : ℚ) / d = (n / d : ℕ) + (n % d : ℕ) / (d : ℚ) := by
    have parts : (n : ℚ) = d * (n / d : ℕ) + (n % d : ℕ) := by
      exact_mod_cast (Nat.div_add_mod n d).symm
    nth_rewrite 1 [parts]
    field_simp
  have small : ((n % d : ℕ) : ℚ) < d := by exact_mod_cast Nat.mod_lt n pos
  rw [split]
  generalize n % d = rest at *
  unfold accuracyOfFraction
  -- Without a remainder the quotient is exact.
  by_cases none : rest = 0
  · simp [none, Located]
  · rw [if_neg none]
    have some : (0 : ℚ) < rest / d := by
      have : (0 : ℚ) < rest := by exact_mod_cast Nat.pos_of_ne_zero none
      positivity
    have part : (rest : ℚ) / d < 1 := (div_lt_one positive).mpr small
    -- The remainder is compared with half of the divisor.
    cases order : compare (2 * rest) d with
    | lt =>
      have less : 2 * (rest : ℚ) < d := by exact_mod_cast Nat.compare_eq_lt.mp order
      have less : (rest : ℚ) / d < 1 / 2 := by rw [div_lt_iff₀ positive]; linarith
      exact ⟨by linarith, by linarith⟩
    | eq =>
      have same : 2 * (rest : ℚ) = d := by exact_mod_cast Nat.compare_eq_eq.mp order
      have same : (rest : ℚ) / d = 1 / 2 := by rw [div_eq_iff positive.ne']; linarith
      exact congrArg _ same
    | gt =>
      have more : (d : ℚ) < 2 * rest := by exact_mod_cast Nat.compare_eq_gt.mp order
      have more : 1 / 2 < (rest : ℚ) / d := by rw [lt_div_iff₀ positive]; linarith
      exact ⟨by linarith, by linarith⟩

/-- A mantissa is rounded to the number nearest to what it stands for. -/
theorem roundsTo_roundToNearestEven {mantissa : Nat} {value : ℚ} {accuracy : Accuracy}
    (located : Located mantissa value accuracy) :
    RoundsTo value (accuracy.roundToNearestEven mantissa) := by
  unfold Located at located
  unfold Accuracy.roundToNearestEven RoundsTo
  -- Each place has its own way to round.
  split at located <;> dsimp only
  · -- An exact mantissa is the result.
    simp [located]
  · -- Below the half the mantissa is the nearest number.
    rw [Int.cast_natCast, abs_of_pos (by linarith)]
    exact ⟨by linarith, fun half => by linarith⟩
  · -- A half goes up from an odd mantissa and down from an even one.
    obtain ⟨half, rfl | rfl⟩ := Nat.even_or_odd' mantissa
    · have down : 2 * half + 2 * half % 2 = 2 * half := by omega
      have above : value - (2 * half : ℕ) = 1 / 2 := by linarith
      rw [down, Int.cast_natCast, above]
      exact ⟨by norm_num, fun _ => ⟨half, by push_cast; ring⟩⟩
    · have up : 2 * half + 1 + (2 * half + 1) % 2 = 2 * half + 2 := by omega
      have below : value - (2 * half + 2 : ℕ) = -(1 / 2) := by
        push_cast at located ⊢
        linarith
      rw [up, Int.cast_natCast, below]
      exact ⟨by norm_num, fun _ => ⟨half + 1, by push_cast; ring⟩⟩
  · -- Above the half it is the next one.
    rw [Int.cast_natCast]
    push_cast
    rw [abs_of_neg (by linarith)]
    exact ⟨by linarith, fun half => by linarith⟩

/-- The exponent that a mantissa is shifted to. -/
theorem targetExponent_eq (mantissa : Nat) (exponent : Int) :
    Format.binary64.targetExponent (totalExponent mantissa exponent) =
      max (mantissa.log2 + 1 + exponent - 53) (-1074) := rfl

/-- Shifting to a larger exponent keeps where the number lies. -/
theorem located_shiftToExponent {mantissa : Nat} {exponent target : Int} {accuracy : Accuracy}
    {value : ℚ} (located : Located mantissa value accuracy) (up : exponent ≤ target) :
    (shiftToExponent mantissa exponent accuracy target).2 = target ∧
      Located (shiftToExponent mantissa exponent accuracy target).1.mantissa
        (value * 2 ^ exponent / 2 ^ target)
        (shiftToExponent mantissa exponent accuracy target).1.accuracy := by
  obtain ⟨same, kept⟩ := accuracy_ofMantissaAndAccuracy mantissa accuracy
  obtain ⟨count, rfl⟩ := Int.le.dest up
  have shift : (exponent + count - exponent).toNat = count := by omega
  have two : (2 : ℚ) ≠ 0 := by norm_num
  have scaled : value * 2 ^ exponent / 2 ^ (exponent + count) = value / 2 ^ count := by
    rw [zpow_add₀ two, zpow_natCast]
    field_simp
  simp only [shiftToExponent, shift, scaled, true_and]
  exact located_shiftRight (by rwa [same, kept]) count

/-- Whether a number of units of a power of two is what a size is rounded to, where the units are
the finest that there is room for. -/
structure Rounded (size : ℚ) (units : Nat) (scale : Int) : Prop where
  /-- The number of units is the nearest one. -/
  rounds : RoundsTo (size / 2 ^ scale) units
  /-- There is room for the size. -/
  below : size / 2 ^ scale < 2 ^ 53
  /-- There is no room for it in finer units. -/
  full : 2 ^ 52 ≤ size / 2 ^ scale ∨ scale = -1074
  /-- There are finest units. -/
  least : -1074 ≤ scale

/-- A mantissa is shifted to the finest units that there is room for. -/
theorem rounded_shiftToTargetExponent {mantissa : Nat} {exponent : Int} {accuracy : Accuracy}
    {value : ℚ} (located : Located mantissa value accuracy)
    (fine : exponent ≤ max (mantissa.log2 + 1 + exponent - 53) (-1074)) :
    Rounded (value * 2 ^ exponent)
      (shiftToTargetExponent .binary64 mantissa exponent accuracy).1.roundedMantissa
      (shiftToTargetExponent .binary64 mantissa exponent accuracy).2 := by
  obtain ⟨low, high⟩ := located.bounds
  unfold shiftToTargetExponent
  rw [targetExponent_eq]
  generalize target : max ((mantissa.log2 : Int) + 1 + exponent - 53) (-1074) = scale at *
  obtain ⟨shifted, kept⟩ := located_shiftToExponent located fine
  have two : (2 : ℚ) ≠ 0 := by norm_num
  have scaled : value * 2 ^ exponent / 2 ^ scale = value * 2 ^ (exponent - scale) := by
    rw [zpow_sub₀ two, mul_div_assoc]
  rw [shifted]
  refine ⟨roundsTo_roundToNearestEven kept, ?_, ?_, by omega⟩
  · -- The mantissa is shorter than its next power of two.
    have short : value < 2 ^ (mantissa.log2 + 1) := by
      have next : mantissa + 1 ≤ 2 ^ (mantissa.log2 + 1) := Nat.lt_log2_self
      have next : (mantissa : ℚ) + 1 ≤ 2 ^ (mantissa.log2 + 1) := by exact_mod_cast next
      linarith
    calc value * 2 ^ exponent / 2 ^ scale
        = value * 2 ^ (exponent - scale) := scaled
      _ < 2 ^ (mantissa.log2 + 1) * 2 ^ (exponent - scale) := by gcongr
      _ = 2 ^ ((mantissa.log2 : Int) + 1 + (exponent - scale)) := by
        rw [zpow_add₀ two]
        norm_cast
      _ ≤ 2 ^ (53 : Int) := zpow_le_zpow_right₀ (by norm_num) (by omega)
      _ = 2 ^ 53 := by norm_num
  -- The finest units need not be filled.
  · by_cases finest : scale = -1074
    · exact .inr finest
    · left
      -- Without a bit in the mantissa there would have been nothing to shift.
      have filled : mantissa ≠ 0 := by
        rintro rfl
        rw [Nat.log2_zero] at target
        omega
      have long : 2 ^ mantissa.log2 ≤ mantissa := Nat.log2_self_le filled
      have long : (2 : ℚ) ^ mantissa.log2 ≤ value := le_trans (by exact_mod_cast long) low
      calc (2 : ℚ) ^ 52
          = 2 ^ ((mantissa.log2 : Int) + (exponent - scale)) := by
            rw [← zpow_natCast]
            congr 1
            omega
        _ = 2 ^ mantissa.log2 * 2 ^ (exponent - scale) := by
          rw [zpow_add₀ two, zpow_natCast]
        _ ≤ value * 2 ^ (exponent - scale) := by gcongr
        _ = value * 2 ^ exponent / 2 ^ scale := scaled.symm

/-- Rounding may fill one more bit, and no more. -/
theorem Rounded.units_bounds {size : ℚ} {units : Nat} {scale : Int}
    (rounded : Rounded size units scale) :
    units ≤ 2 ^ 53 ∧ (2 ^ 52 ≤ units ∨ scale = -1074) := by
  obtain ⟨low, high⟩ := rounded.rounds.bounds
  have below := rounded.below
  constructor
  · -- Before rounding there was room, and half a unit more does not pass the next whole number.
    have : (units : ℚ) < 2 ^ 53 + 1 := by
      push_cast at low
      linarith
    have : units < 2 ^ 53 + 1 := by exact_mod_cast this
    omega
  · -- The same holds in the other direction, from the least size with all its bits.
    refine rounded.full.imp_left fun full => ?_
    have : (2 : ℚ) ^ 52 < units + 1 := by
      push_cast at high
      linarith
    have : 2 ^ 52 < units + 1 := by exact_mod_cast this
    omega

/-- A bit too many is shifted out without loss. -/
theorem exists_fits_of_units {units : Nat} {scale : Int} (most : units ≤ 2 ^ 53)
    (full : 2 ^ 52 ≤ units ∨ scale = -1074) (least : -1074 ≤ scale) :
    ∃ significand exponent, Fits significand exponent ∧
      (significand * 2 ^ exponent : ℚ) = units * 2 ^ scale ∧
      (Even units → Even significand) ∧
      (exponent = scale ∨ 2 ^ 53 ≤ units ∧ exponent = scale + 1) ∧
      (shiftToTargetExponent .binary64 units scale .exact).1.mantissa = significand ∧
      (shiftToTargetExponent .binary64 units scale .exact).2 = exponent := by
  have two : (2 : ℚ) ≠ 0 := by norm_num
  -- Only the one number that fills a bit more has to be shifted.
  rcases Nat.lt_or_eq_of_le most with short | rfl
  · have bits : units.log2 < 53 := by
      rcases Nat.eq_zero_or_pos units with rfl | pos
      · decide
      · exact (Nat.log2_lt pos.ne').mpr short
    have stays : (max ((units.log2 : Int) + 1 + scale - 53) (-1074) - scale).toNat = 0 := by omega
    refine ⟨units, scale, ⟨short, full, least⟩, rfl, id, .inl rfl, ?_, ?_⟩ <;>
      simp only [shiftToTargetExponent, targetExponent_eq, shiftToExponent, stays]
    · rfl
    · simp
  · -- The one number with a bit too many is a power of two, so the bit shifted out is zero.
    have bits : (2 ^ 53 : Nat).log2 = 53 := Nat.log2_two_pow
    have shifts :
        (max (((2 ^ 53 : Nat).log2 : Int) + 1 + scale - 53) (-1074) - scale).toNat = 1 := by
      omega
    refine ⟨2 ^ 52, scale + 1, ⟨by decide, .inl le_rfl, by omega⟩, ?_, fun _ => ⟨2 ^ 51, rfl⟩,
      .inr ⟨le_rfl, rfl⟩, ?_, ?_⟩
    · -- Half as many units twice as large are the same size.
      rw [zpow_add_one₀ two]
      push_cast
      ring
    · -- The significand has been shifted by one bit.
      simp only [shiftToTargetExponent, targetExponent_eq, shiftToExponent, shifts]
      rfl
    · -- The exponent has been raised by one.
      simp only [shiftToTargetExponent, targetExponent_eq, shiftToExponent, shifts]
      rfl

/--
Whether a double is the one nearest to a number, with an even significand where two are.

As an infinity counts as the number next behind the largest doubles, it is the nearest one from
halfway between the two on.
-/
structure Nearest (x : Float) (value : ℚ) : Prop where
  /-- It is a number. -/
  number : x.isNaN = false
  /-- No other number is nearer. -/
  nearest : ∀ y : Float, y.isNaN = false → |value - exact x| ≤ |value - exact y|
  /-- If another one is as near, it is the even one of the two. -/
  even : ∀ y : Float, y.isNaN = false → |value - exact x| = |value - exact y| →
    exact y = exact x ∨ Even (Binary.ofFloat x).significand

/-- Whether a double without a sign is the one nearest to a size. -/
structure NearestSize (x : Float) (size : ℚ) : Prop extends Nearest x size where
  /-- It has no sign. -/
  bare : isNegative x = false

/-- A double is a whole number of units, or it lies below the room there is. -/
theorem exact_cases {y : Float} (number : y.isNaN = false) (scale : Int) :
    (∃ n : ℤ, exact y = n * 2 ^ scale) ∨ -1074 < scale ∧ |exact y| < 2 ^ 52 * 2 ^ scale := by
  have double := isDouble_self number
  obtain ⟨⟨below, -, finest⟩, -⟩ := double.fits
  have size := double.abs_exact
  generalize (Binary.ofFloat y).significand = significand at *
  generalize (Binary.ofFloat y).exponent = exponent at *
  have two : (2 : ℚ) ≠ 0 := by norm_num
  -- A double in finer units is too small to have all its bits in these.
  rcases Int.lt_or_le exponent scale with less | up
  · refine .inr ⟨by omega, ?_⟩
    have short : (significand : ℚ) < 2 ^ 53 := by exact_mod_cast below
    calc |exact y| = significand * 2 ^ exponent := size
      _ < 2 ^ 53 * 2 ^ exponent := by gcongr
      _ = 2 ^ 52 * 2 ^ (exponent + 1) := by
        rw [zpow_add_one₀ two]
        ring
      _ ≤ 2 ^ 52 * 2 ^ scale := by
        gcongr
        · norm_num
        · omega
  · -- In units as fine or finer than its own a double is a whole number of them.
    obtain ⟨count, rfl⟩ := Int.le.dest up
    have whole : (significand : ℚ) * 2 ^ (scale + count) =
        (significand * 2 ^ count : ℕ) * 2 ^ scale := by
      rw [zpow_add₀ two, zpow_natCast]
      push_cast
      ring
    left
    rcases abs_choice (exact y) with same | same
    · exact ⟨(significand * 2 ^ count : ℕ), by rw [← same, size, whole, Int.cast_natCast]⟩
    · refine ⟨-(significand * 2 ^ count : ℕ), ?_⟩
      rw [← neg_eq_iff_eq_neg.mpr same, size, whole, Int.cast_neg, Int.cast_natCast, neg_mul]

/-- The double that is as large as the units of a rounded size is the one nearest to it. -/
theorem nearest_of_rounded {size : ℚ} {units : Nat} {scale : Int} {x : Float}
    (rounded : Rounded size units scale) (number : x.isNaN = false)
    (same : exact x = units * 2 ^ scale)
    (even : Even units → Even (Binary.ofFloat x).significand) : Nearest x size := by
  have pos : (0 : ℚ) < 2 ^ scale := by positivity
  -- Distances are measured in units.
  have measured (n : ℤ) : |size - n * 2 ^ scale| = |size / 2 ^ scale - n| * 2 ^ scale := by
    rw [← abs_of_pos pos, ← abs_mul, abs_of_pos pos, sub_mul, div_mul_cancel₀ _ pos.ne']
  have distance : |size - exact x| = |size / 2 ^ scale - (units : ℤ)| * 2 ^ scale := by
    rw [same, ← measured, Int.cast_natCast]
  have apart (y : Float) (number : y.isNaN = false) :
      (∃ n : ℤ, exact y = n * 2 ^ scale) ∨ |size - exact x| < |size - exact y| := by
    refine (exact_cases number scale).imp_right fun ⟨coarse, small⟩ => ?_
    -- The least number with all its bits lies between the double and the size.
    have full := rounded.full.resolve_right (by omega)
    have near := (rounded.rounds.nearest (2 ^ 52)).1
    rw [Int.cast_pow, Int.cast_ofNat, abs_of_nonneg (sub_nonneg.mpr full)] at near
    calc |size - exact x|
        = |size / 2 ^ scale - (units : ℤ)| * 2 ^ scale := distance
      _ ≤ (size / 2 ^ scale - 2 ^ 52) * 2 ^ scale := by gcongr
      _ = size - 2 ^ 52 * 2 ^ scale := by rw [sub_mul, div_mul_cancel₀ _ pos.ne']
      _ < size - exact y := by linarith [le_abs_self (exact y)]
      _ ≤ |size - exact y| := le_abs_self _
  -- Among whole numbers of units the rounding decides, and every other double is farther off.
  refine ⟨number, fun y number => ?_, fun y number equal => ?_⟩
  · -- No rival is nearer.
    rcases apart y number with ⟨n, whole⟩ | less
    · rw [whole, distance, measured]
      exact mul_le_mul_of_nonneg_right (rounded.rounds.nearest n).1 pos.le
    · exact less.le
  · -- A rival that is as near leaves the significand even.
    rcases apart y number with ⟨n, whole⟩ | less
    · rw [whole, distance, measured] at equal
      have equal := mul_right_cancel₀ pos.ne' equal
      refine ((rounded.rounds.nearest n).2 equal).imp (fun here => ?_) fun twice => ?_
      · rw [whole, same, here, Int.cast_natCast]
      · exact even ((Int.even_coe_nat units).mp twice)
    · exact absurd equal less.ne

/-- An infinity is the double nearest to what lies beyond it. -/
theorem nearest_of_large {size : ℚ} {x : Float} (large : 2 ^ 1024 ≤ size)
    (infinite : IsDouble x false (2 ^ 52) 972) : Nearest x size := by
  have top := infinite.exact_of_infinite
  have below (y : Float) (number : y.isNaN = false) : exact y ≤ 2 ^ 1024 :=
    (le_abs_self _).trans (abs_exact_le number)
  generalize (2 : ℚ) ^ 1024 = bound at *
  -- An infinity is at the bound, and every other double is below it.
  refine ⟨infinite.number, fun y number => ?_, fun _ _ _ => .inr ?_⟩
  · have short := below y number
    rw [top, abs_of_nonneg (by linarith), abs_of_nonneg (by linarith)]
    linarith
  · rw [infinite.significand]
    exact ⟨2 ^ 51, rfl⟩

/-- A zero is the double nearest to what is at most half of the least double. -/
theorem nearest_of_small {size : ℚ} {x : Float} {negative : Bool} (least : 0 ≤ size)
    (small : size ≤ 2 ^ (-1075 : Int)) (zero : IsDouble x negative 0 (-1074)) :
    Nearest x size := by
  -- In units of the least double the size is at most one half, which goes to zero.
  have positive : 0 ≤ size / 2 ^ (-1074 : Int) := by positivity
  have half : size / 2 ^ (-1074 : Int) ≤ 1 / 2 := by
    have unit : (2 : ℚ) ^ (-1074 : Int) = 2 ^ (-1075 : Int) * 2 := by
      rw [← zpow_add_one₀ (by norm_num)]
      rfl
    rw [div_le_iff₀ (by positivity), unit]
    linarith
  have rounds : RoundsTo (size / 2 ^ (-1074 : Int)) (0 : Nat) := by
    rw [RoundsTo, Int.cast_natCast, Nat.cast_zero, sub_zero, abs_of_nonneg positive]
    exact ⟨half, fun _ => ⟨0, rfl⟩⟩
  have rounded : Rounded size 0 (-1074) := ⟨rounds, by linarith, .inr rfl, le_rfl⟩
  refine nearest_of_rounded rounded zero.number ?_ fun _ => ?_
  · -- A zero is no units of any scale.
    rw [zero.exact_eq]
    simp
  · -- No significand at all is even.
    rw [zero.significand]
    exact ⟨0, rfl⟩

/-- What is rounded to units beyond the largest doubles is nearest to an infinity. -/
theorem nearest_of_rounded_large {size : ℚ} {units : Nat} {scale : Int} {x : Float}
    (rounded : Rounded size units scale) (large : 971 < scale ∨ scale = 971 ∧ 2 ^ 53 ≤ units)
    (infinite : IsDouble x false (2 ^ 52) 972) : Nearest x size := by
  -- The units may be too coarse already, or the last carry makes them so.
  rcases large with beyond | ⟨rfl, carried⟩
  · -- With all its bits in such units the size is beyond the largest doubles before rounding.
    refine nearest_of_large ?_ infinite
    have full := rounded.full.resolve_right (by omega)
    rw [le_div_iff₀ (by positivity)] at full
    calc (2 : ℚ) ^ 1024
        = 2 ^ 52 * 2 ^ (972 : Int) := by rw [zpow_ofNat, ← pow_add]
      _ ≤ 2 ^ 52 * 2 ^ scale := by
        gcongr
        · norm_num
        · omega
      _ ≤ size := full
  · -- The largest doubles are carried over to the power of two that comes next.
    obtain rfl : units = 2 ^ 53 := by
      have most := rounded.units_bounds.1
      omega
    refine nearest_of_rounded rounded infinite.number ?_ fun _ => ?_
    · rw [infinite.exact_of_infinite, zpow_ofNat, Nat.cast_pow, Nat.cast_ofNat, ← pow_add]
    · rw [infinite.significand]
      exact ⟨2 ^ 51, rfl⟩

/-- What a mantissa with its accuracy stands for is rounded to the double nearest to it. -/
theorem nearest_roundWithAccuracy {mantissa : Nat} {exponent : Int} {accuracy : Accuracy}
    {value : ℚ} (located : Located mantissa value accuracy)
    (fine : exponent ≤ max (mantissa.log2 + 1 + exponent - 53) (-1074)) :
    NearestSize ⟨Float.Model.pack
      (roundWithAccuracy .binary64 (signOf false) mantissa exponent accuracy)⟩
      (value * 2 ^ exponent) := by
  -- After rounding, the number of units fits a significand, but for one carry.
  have rounded := rounded_shiftToTargetExponent located fine
  unfold roundWithAccuracy
  dsimp only
  generalize (shiftToTargetExponent .binary64 mantissa exponent accuracy).2 = scale at *
  generalize (shiftToTargetExponent .binary64 mantissa exponent accuracy).1.roundedMantissa =
    units at *
  generalize value * 2 ^ exponent = size at *
  obtain ⟨most, full⟩ := rounded.units_bounds
  obtain ⟨significand, final, fits, same, even, carried, shifted, moved⟩ :=
    exists_fits_of_units most full rounded.least
  simp only [shifted, moved]
  -- There is nothing left, or there is a finite double, or there is none so large.
  split
  case isTrue none =>
    -- Nothing is left of the mantissa, and the double is zero.
    subst none
    have zero := isDouble_zero false
    refine ⟨nearest_of_rounded rounded zero.number ?_ fun twice => ?_, zero.sign⟩
    · rw [zero.exact_eq, ← same]
      simp
    · rw [zero.significand]
      exact even twice
  case isFalse some =>
    rcases Int.lt_or_le 971 final with large | small
    · have infinite := isDouble_infinity false
      have packed : Float.Model.pack (.finite (signOf false) significand final (by omega)) =
          Float.Model.pack (.infinity (signOf false)) := by
        simp only [Float.Model.pack, pack_of_large _ large]
      rw [packed]
      refine ⟨?_, infinite.sign⟩
      exact nearest_of_rounded_large rounded (by omega) infinite
    · have double : IsDouble _ false significand final := isDouble_pack fits small (by omega)
      refine ⟨nearest_of_rounded rounded double.number ?_ fun twice => ?_, double.sign⟩
      · rw [double.exact_eq, if_neg Bool.false_ne_true, same]
      · rw [double.significand]
        exact even twice

end Scriptlet.Decimal

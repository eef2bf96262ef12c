import Scriptlet.Decimal.Numeral
import Scriptlet.Proofs.Decimal.Rounding

/-!
Decimal numerals are read as the doubles nearest to them.

Main statement: the double that is made of digits and a power of ten is the one nearest to the
exact number, with an even significand where two are.
-/

namespace Scriptlet.Decimal

open Float.Model Float.Model.UnpackedFloat

/-! Products and quotients of finite numbers are rounded to the double nearest to them. -/

/-- A mantissa that is long enough need not be scaled any finer. -/
theorem fine_of_full {mantissa : Nat} (exponent : Int) (full : 2 ^ 52 ≤ mantissa) :
    exponent ≤ max ((mantissa.log2 : Int) + 1 + exponent - 53) (-1074) := by
  -- With all its bits, a mantissa has its highest one at the place of the hidden bit or above.
  have long : 52 ≤ mantissa.log2 := (Nat.le_log2 (by omega)).mpr full
  omega

/-- A product that fills a significand is rounded to the double nearest to it. -/
theorem nearest_mul {first second : Nat} {scale scale' : Int} (pos : 0 < first) (pos' : 0 < second)
    (full : 2 ^ 52 ≤ first * second) :
    NearestSize ⟨Float.Model.pack (UnpackedFloat.mul .binary64
        (.finite .positive first scale pos) (.finite .positive second scale' pos'))⟩
      (first * 2 ^ scale * (second * 2 ^ scale')) := by
  -- The product of the mantissas is exact, so that rounding it is all that happens.
  have located : Located (first * second) ((first * second : ℕ) : ℚ) .exact := rfl
  have rounded := nearest_roundWithAccuracy located (fine_of_full (scale + scale') full)
  have value : ((first * second : ℕ) : ℚ) * 2 ^ (scale + scale') =
      first * 2 ^ scale * (second * 2 ^ scale') := by
    rw [zpow_add₀ (by norm_num)]
    push_cast
    ring
  rwa [value] at rounded

/-- A quotient is rounded to the double nearest to it. -/
theorem nearest_div {first second : Nat} {scale scale' : Int} (pos : 0 < first)
    (pos' : 0 < second) :
    NearestSize ⟨Float.Model.pack (UnpackedFloat.div .binary64
        (.finite .positive first scale pos) (.finite .positive second scale' pos'))⟩
      (first * 2 ^ scale / (second * 2 ^ scale')) := by
  simp only [UnpackedFloat.div, divCore]
  change NearestSize ⟨Float.Model.pack (roundWithAccuracy .binary64 (signOf false) _ _ _)⟩ _
  -- The quotient is wanted in units of the target exponent, or finer where it is short.
  generalize target : min (scale - scale') (Format.binary64.targetExponent
    (totalExponent first scale - totalExponent second scale')) = exponent
  change min (scale - scale') (max ((first.log2 + 1 + scale) - (second.log2 + 1 + scale') - 53)
    (-1074)) = exponent at target
  generalize shifted : (scale - scale' - exponent).toNat = shift
  have located := located_accuracyOfFraction (first <<< shift) pos'
  have value : ((first <<< shift : ℕ) : ℚ) / second * 2 ^ exponent =
      first * 2 ^ scale / (second * 2 ^ scale') := by
    -- The target is no larger than the difference of the scales, so the shift makes it up.
    obtain rfl : exponent = scale - scale' - shift := by omega
    have two : (2 : ℚ) ≠ 0 := by norm_num
    rw [Nat.shiftLeft_eq, zpow_sub₀ two, zpow_sub₀ two, zpow_natCast]
    push_cast
    field_simp
  rw [← value]
  refine nearest_roundWithAccuracy located ?_
  rcases Int.lt_or_le (-1074) exponent with coarse | finest
  · -- The dividend was shifted until the quotient fills a significand.
    refine fine_of_full exponent ((Nat.le_div_iff_mul_le pos').mpr ?_)
    have low : 2 ^ first.log2 ≤ first := Nat.log2_self_le pos.ne'
    have high : second < 2 ^ (second.log2 + 1) := Nat.lt_log2_self
    calc 2 ^ 52 * second
        ≤ 2 ^ 52 * 2 ^ (second.log2 + 1) := Nat.mul_le_mul_left _ high.le
      _ = 2 ^ (52 + (second.log2 + 1)) := (Nat.pow_add ..).symm
      _ ≤ 2 ^ (first.log2 + shift) := Nat.pow_le_pow_right (by decide) (by omega)
      _ = 2 ^ first.log2 * 2 ^ shift := Nat.pow_add ..
      _ ≤ first <<< shift := by
        rw [Nat.shiftLeft_eq]
        exact Nat.mul_le_mul_right _ low
  -- At the least exponent there is nothing finer.
  · omega

/-! Small whole numbers and the first powers of ten are doubles themselves. -/

/-- What is a double is the double nearest to itself. -/
theorem Nearest.exact_eq {x y : Float} {value : ℚ} (near : Nearest x value)
    (number : y.isNaN = false) (same : exact y = value) : exact x = value := by
  -- The other double is at no distance from the value, and the nearest one is not farther off.
  have closest := near.nearest y number
  rw [same, sub_self, abs_zero] at closest
  linarith [abs_nonpos_iff.mp closest]

/-- A size that is not that of an infinity is unpacked. -/
theorem IsDouble.le_of_exact {x : Float} {significand : Nat} {exponent : Int}
    (double : IsDouble x false significand exponent) (small : exact x < 2 ^ 1024) :
    exponent ≤ 971 := by
  -- The one size beyond that exponent is that of the infinities.
  refine double.fits.2.resolve_right ?_
  rintro ⟨rfl, rfl⟩
  exact small.ne double.exact_of_infinite

/-- A whole number that fits into a significand is a double. -/
theorem isDouble_toFloat {n : Nat} (pos : 0 < n) (small : n < 2 ^ 53) :
    ∃ significand exponent, IsDouble n.toUInt64.toFloat false significand exponent ∧
      0 < significand ∧ exponent ≤ 971 ∧ (significand * 2 ^ exponent : ℚ) = n := by
  have low : 2 ^ n.log2 ≤ n := Nat.log2_self_le pos.ne'
  have high : n < 2 ^ (n.log2 + 1) := Nat.lt_log2_self
  have short : n.log2 < 53 := (Nat.log2_lt pos.ne').mpr small
  -- The number is shifted until it fills a significand.
  obtain ⟨shift, filled⟩ : ∃ shift, n.log2 + shift = 52 := ⟨52 - n.log2, by omega⟩
  have value : ((n <<< shift : ℕ) : ℚ) * 2 ^ (-shift : Int) = n := by
    rw [Nat.shiftLeft_eq, zpow_neg, zpow_natCast]
    push_cast
    field_simp
  have full : 2 ^ 52 ≤ n <<< shift := by
    rw [← filled, Nat.pow_add, Nat.shiftLeft_eq]
    exact Nat.mul_le_mul_right _ low
  have below : n <<< shift < 2 ^ 53 := by
    have next : n.log2 + 1 + shift = 53 := by omega
    rw [← next, Nat.pow_add, Nat.shiftLeft_eq]
    exact Nat.mul_lt_mul_of_pos_right high (Nat.two_pow_pos shift)
  have rounded : UnpackedFloat.ofUInt64 .binary64 n.toUInt64 =
      roundWithAccuracy .binary64 (signOf false) (n <<< shift) (-shift) .exact := by
    have same : n.toUInt64.toNat = n := UInt64.toNat_ofNat_of_lt' (small.trans (by decide))
    have target : Format.binary64.targetExponent (totalExponent n 0) = -shift := by
      change max ((n.log2 : Int) + 1 + 0 - 53) (-1074) = -shift
      omega
    rw [UnpackedFloat.ofUInt64, same, UnpackedFloat.ofNat, UnpackedFloat.ofInt,
      UnpackedFloat.normalize, Int.compare_eq_gt.mpr (by omega)]
    simp only [UnpackedFloat.round, decreaseExponent, Int.toNat_natCast, target, zero_sub, neg_neg]
    rfl
  have exactly : Located (n <<< shift) ((n <<< shift : ℕ) : ℚ) .exact := rfl
  have near := nearest_roundWithAccuracy exactly (fine_of_full (-shift) full)
  rw [← rounded, value] at near
  -- The number is itself a double, and what is nearest to a double is of the same value.
  have itself : IsDouble _ false (n <<< shift) (-shift) :=
    isDouble_pack ⟨below, .inl full, by omega⟩ (by omega) (by omega)
  have value := near.exact_eq itself.number (by
    rw [itself.exact_eq, if_neg Bool.false_ne_true, value])
  have double := isDouble_self near.number
  rw [near.bare] at double
  have size := double.exact_eq
  rw [value, if_neg Bool.false_ne_true] at size
  refine ⟨_, _, double, ?_, double.le_of_exact ?_, size.symm⟩
  · -- Without a significand the double would be zero.
    by_contra none
    rw [Nat.eq_zero_of_not_pos none, Nat.cast_zero, zero_mul, Nat.cast_eq_zero] at size
    omega
  · -- A number below the width of a significand is far below the infinities.
    have room : (n : ℚ) < 2 ^ 53 := by exact_mod_cast small
    rw [value]
    exact room.trans_le (pow_le_pow_right₀ (by norm_num) (by norm_num))

/-- Each of the powers of ten that are kept is looked at; sizes are compared as whole numbers. -/
theorem powersOfTen : ∀ power : Fin Float.exactlyRepresentablePowersOfTen.size,
    let x := Float.exactlyRepresentablePowersOfTen[power]
    let size := Binary.ofFloat x
    x.isNaN = false ∧ isNegative x = false ∧ 2 ^ 52 ≤ size.significand ∧
      -52 ≤ size.exponent ∧ size.exponent ≤ 971 ∧
      size.significand * 2 ^ (size.exponent + 52).toNat = 10 ^ power.val * 2 ^ 52 := by
  decide

/-- The powers of ten that are kept are doubles. -/
theorem isDouble_powerOfTen {power : Nat}
    (first : power < Float.exactlyRepresentablePowersOfTen.size) :
    ∃ significand exponent,
      IsDouble Float.exactlyRepresentablePowersOfTen[power] false significand exponent ∧
        2 ^ 52 ≤ significand ∧ exponent ≤ 971 ∧
        (significand * 2 ^ exponent : ℚ) = 10 ^ power := by
  -- The table has been looked at in whole numbers, and is now read as one of fractions.
  obtain ⟨number, sign, full, low, high, same⟩ := powersOfTen ⟨power, first⟩
  refine ⟨_, _, ⟨number, sign, rfl, rfl⟩, full, high, ?_⟩
  simp only [Fin.getElem_fin] at low high same
  generalize (Binary.ofFloat Float.exactlyRepresentablePowersOfTen[power]).significand =
    significand at *
  generalize (Binary.ofFloat Float.exactlyRepresentablePowersOfTen[power]).exponent =
    exponent at *
  obtain ⟨shift, rfl⟩ : ∃ shift : Nat, exponent = shift - 52 := ⟨(exponent + 52).toNat, by omega⟩
  have count : ((shift : Int) - 52 + 52).toNat = shift := by omega
  rw [count] at same
  have same : (significand : ℚ) * 2 ^ shift = 10 ^ power * 2 ^ 52 := by exact_mod_cast same
  rw [zpow_sub₀ (by norm_num), zpow_natCast, zpow_ofNat, ← mul_div_assoc, same]
  field_simp

/-! Digits and a power of ten. -/

/-- Small digits are multiplied with or divided by a power of ten, and rounded once. -/
theorem nearest_ofScientific_small {digits power : Nat} (pos : 0 < digits) (few : digits < 2 ^ 53)
    (first : power ≤ 22) (down : Bool) :
    NearestSize (Float.ofScientific digits down power)
      (if down then digits / 10 ^ power else digits * 10 ^ power) := by
  -- Both operands are doubles without any rounding, so that the operation alone rounds.
  obtain ⟨front, scale, number, some, most, value⟩ := isDouble_toFloat pos few
  have inside : power < Float.exactlyRepresentablePowersOfTen.size := Nat.lt_succ_of_le first
  obtain ⟨back, scale', ten, full, most', value'⟩ := isDouble_powerOfTen inside
  have some' : 0 < back := by omega
  rw [Float.ofScientific, dif_pos ⟨few, first⟩, ← value, ← value']
  cases down
  · -- Without a sign in front of the power, the digits are multiplied.
    change NearestSize ⟨Float.Model.pack (UnpackedFloat.mul .binary64 _ _)⟩ _
    rw [number.unpack_finite most some, ten.unpack_finite most' some']
    exact nearest_mul some some' (full.trans (Nat.le_mul_of_pos_left back some))
  · -- Behind a minus sign, the digits are divided.
    change NearestSize ⟨Float.Model.pack (UnpackedFloat.div .binary64 _ _)⟩ _
    rw [number.unpack_finite most some, ten.unpack_finite most' some']
    exact nearest_div some some'

/-- Below zero, a power of ten is at most the same power of two. -/
theorem ten_zpow_le {power : Int} (down : power ≤ 0) : (10 : ℚ) ^ power ≤ 2 ^ power := by
  -- Both are inverted, and ten is more than two.
  obtain ⟨count, rfl⟩ : ∃ count : Nat, power = -count := ⟨(-power).toNat, by omega⟩
  rw [zpow_neg, zpow_neg, zpow_natCast, zpow_natCast]
  exact inv_anti₀ (by positivity) (pow_le_pow_left₀ (by norm_num) (by norm_num) count)

/-- All other digits and powers are scaled by a power of two before. -/
theorem nearest_ofScientific_large {digits : Nat} (pos : 0 < digits) (power : Int) :
    NearestSize ⟨Float.Model.ofScientific digits power⟩ (digits * 10 ^ power) := by
  -- There is at least one digit that is not zero.
  have some : (1 : ℚ) ≤ digits := by exact_mod_cast pos
  rw [Float.Model.ofScientific, UnpackedFloat.ofScientific, dif_neg pos.ne']
  split_ifs with large small up
  · -- A power of ten so large takes any digits beyond the largest doubles.
    refine ⟨nearest_of_large ?_ (isDouble_infinity false), rfl⟩
    change (2048 : Int) < power at large
    calc (2 : ℚ) ^ 1024
        ≤ 10 ^ 1024 := pow_le_pow_left₀ (by norm_num) (by norm_num) 1024
      _ = 10 ^ (1024 : Int) := (zpow_ofNat 10 1024).symm
      _ ≤ 10 ^ power := zpow_le_zpow_right₀ (by norm_num) (by omega)
      _ ≤ digits * 10 ^ power := le_mul_of_one_le_left (by positivity) some
  · -- A power of ten so small takes all the bits of the digits below the least double.
    refine ⟨nearest_of_small (by positivity) ?_ (isDouble_zero false), rfl⟩
    change power < -(2048 + (digits.log2 : Int)) at small
    have short : (digits : ℚ) ≤ 2 ^ (digits.log2 + 1) := by
      exact_mod_cast (Nat.lt_log2_self : digits < 2 ^ (digits.log2 + 1)).le
    calc (digits : ℚ) * 10 ^ power
        ≤ 2 ^ (digits.log2 + 1) * 2 ^ power :=
          mul_le_mul short (ten_zpow_le (by omega)) (by positivity) (by positivity)
      _ = 2 ^ ((digits.log2 : Int) + 1 + power) := by
        rw [zpow_add₀ (by norm_num)]
        norm_cast
      _ ≤ 2 ^ (-1075 : Int) := zpow_le_zpow_right₀ (by norm_num) (by omega)
  · -- The digits are shifted so far that the product fills a significand.
    have filled : 0 < digits <<< 53 := Nat.shiftLeft_pos_iff.mpr pos
    have power' : 0 < 10 ^ power.toNat := by positivity
    have full : 2 ^ 52 ≤ digits <<< 53 * 10 ^ power.toNat := by
      rw [Nat.shiftLeft_eq]
      have long : 2 ^ 53 ≤ digits * 2 ^ 53 := Nat.le_mul_of_pos_left _ pos
      exact le_trans (by omega) (Nat.le_mul_of_pos_right _ power')
    have near : NearestSize _ (((digits <<< 53 : ℕ) : ℚ) * 2 ^ (-53 : Int) *
      ((10 ^ power.toNat : ℕ) * 2 ^ (0 : Int))) := nearest_mul filled power' full
    have value : ((digits <<< 53 : ℕ) : ℚ) * 2 ^ (-53 : Int) *
        ((10 ^ power.toNat : ℕ) * 2 ^ (0 : Int)) = digits * 10 ^ power := by
      obtain ⟨count, rfl⟩ := Int.eq_ofNat_of_zero_le up
      rw [Nat.shiftLeft_eq, Int.toNat_natCast, zpow_natCast, zpow_zero, zpow_neg, zpow_ofNat,
        Nat.cast_mul, Nat.cast_pow, Nat.cast_pow, Nat.cast_ofNat, Nat.cast_ofNat]
      field_simp
    rwa [value] at near
  · -- A negative power of ten is divided by, and division finds its own shift.
    have power' : 0 < 10 ^ (-power).toNat := by positivity
    have near : NearestSize _ ((digits : ℚ) * 2 ^ (0 : Int) /
      ((10 ^ (-power).toNat : ℕ) * 2 ^ (0 : Int))) := nearest_div pos power'
    have value : (digits : ℚ) * 2 ^ (0 : Int) / ((10 ^ (-power).toNat : ℕ) * 2 ^ (0 : Int)) =
        digits * 10 ^ power := by
      obtain ⟨count, rfl⟩ : ∃ count : Nat, power = -count := ⟨(-power).toNat, by omega⟩
      rw [neg_neg, Int.toNat_natCast, zpow_neg, zpow_natCast, zpow_zero]
      push_cast
      field_simp
    rwa [value] at near

/-- Digits and a power of ten make up the double nearest to them. -/
theorem nearest_ofScientific {digits : Nat} (pos : 0 < digits) (power : Int) :
    NearestSize (Float.ofScientific digits (power < 0) power.natAbs) (digits * 10 ^ power) := by
  have large := nearest_ofScientific_large pos power
  -- On either side of zero the short way is taken where both operands are doubles.
  rcases Int.lt_or_le power 0 with down | up
  · obtain ⟨count, rfl⟩ : ∃ count : Nat, power = -count := ⟨(-power).toNat, by omega⟩
    rw [decide_eq_true down, Int.natAbs_neg, Int.natAbs_natCast]
    -- The short way asks for few digits and a small power.
    by_cases few : digits < 2 ^ 53 ∧ count ≤ 22
    · -- The product or the quotient of two doubles is rounded once.
      have near := nearest_ofScientific_small pos few.1 few.2 true
      rwa [if_pos rfl, div_eq_mul_inv, ← zpow_natCast, ← zpow_neg] at near
    · -- The long way does the same by whole numbers.
      rw [Float.ofScientific, dif_neg few]
      dsimp only
      rwa [if_pos rfl, Int.negOfNat_eq]
  · obtain ⟨count, rfl⟩ := Int.eq_ofNat_of_zero_le up
    rw [decide_eq_false up.not_gt, Int.natAbs_natCast]
    -- The same question is asked on this side.
    by_cases few : digits < 2 ^ 53 ∧ count ≤ 22
    · -- Few digits are multiplied by a power of ten from the table.
      have near := nearest_ofScientific_small pos few.1 few.2 false
      rwa [if_neg Bool.false_ne_true, ← zpow_natCast] at near
    · -- The long way takes all others.
      rw [Float.ofScientific, dif_neg few]
      exact large

/-- A number lies between the powers of ten that its digits tell. -/
theorem length_whole {digits : Nat} (pos : 0 < digits) :
    10 ^ ((whole digits).length - 1) ≤ digits ∧ digits < 10 ^ (whole digits).length := by
  have some : 0 < (whole digits).length := Nat.length_toDigits_pos
  have fits := Nat.length_toDigits_le_iff (b := 10) (n := digits) (by decide) some
  refine ⟨?_, fits.mp le_rfl⟩
  -- One digit is a case of its own, as the power below it is none.
  rcases Nat.eq_or_lt_of_le (Nat.succ_le_of_lt some) with one | more
  · rw [← one]
    exact pos
  · have short := Nat.length_toDigits_le_iff (b := 10) (n := digits)
      (k := (whole digits).length - 1) (by decide) (by omega)
    by_contra less
    have := short.mpr (by omega)
    rw [whole] at *
    omega

/-- The double that is made of digits and a power of ten is the one nearest to the number. -/
theorem nearest_toFloat (numeral : Numeral) :
    NearestSize numeral.toFloat (numeral.digits * 10 ^ numeral.exponent) := by
  unfold Numeral.toFloat
  have ten : (10 : ℚ) ≠ 0 := by norm_num
  dsimp only
  split_ifs with none large small
  · -- Zero is nearest to itself.
    rw [beq_iff_eq.mp none, Nat.cast_zero, zero_mul]
    have zero : IsDouble 0.0 false 0 (-1074) := ⟨rfl, rfl, rfl, rfl⟩
    exact ⟨nearest_of_small le_rfl (by positivity) zero, zero.sign⟩
  · -- With its first digit so far in front of the point a number is beyond the largest doubles.
    have infinite : IsDouble (.ofBits 0x7FF0000000000000) false (2 ^ 52) 972 := ⟨rfl, rfl, rfl, rfl⟩
    obtain ⟨long, -⟩ := length_whole (Nat.pos_of_ne_zero (by simpa using none))
    have long : (10 : ℚ) ^ ((whole numeral.digits).length - 1) ≤ numeral.digits := by
      exact_mod_cast long
    refine ⟨nearest_of_large ?_ infinite, infinite.sign⟩
    calc (2 : ℚ) ^ 1024
        ≤ (2 ^ 205) ^ 5 := by
          rw [← pow_mul]
          exact pow_le_pow_right₀ (by norm_num) (by norm_num)
      _ ≤ (10 ^ 62) ^ 5 := pow_le_pow_left₀ (by norm_num) (by norm_num) 5
      _ = 10 ^ (310 : Int) := by rw [← pow_mul, zpow_ofNat]
      _ ≤ 10 ^ (((whole numeral.digits).length - 1 : ℕ) + numeral.exponent : Int) :=
        zpow_le_zpow_right₀ (by norm_num) (by omega)
      _ = 10 ^ ((whole numeral.digits).length - 1) * 10 ^ numeral.exponent := by
        rw [zpow_add₀ ten, zpow_natCast]
      _ ≤ numeral.digits * 10 ^ numeral.exponent := by gcongr
  · -- With its first digit so far behind the point it is below half of the least double.
    have zero : IsDouble 0.0 false 0 (-1074) := ⟨rfl, rfl, rfl, rfl⟩
    obtain ⟨-, short⟩ := length_whole (Nat.pos_of_ne_zero (by simpa using none))
    have short : (numeral.digits : ℚ) ≤ 10 ^ (whole numeral.digits).length := by
      exact_mod_cast short.le
    refine ⟨nearest_of_small (by positivity) ?_ zero, zero.sign⟩
    calc (numeral.digits : ℚ) * 10 ^ numeral.exponent
        ≤ 10 ^ (whole numeral.digits).length * 10 ^ numeral.exponent := by gcongr
      _ = 10 ^ (numeral.exponent + (whole numeral.digits).length) := by
        rw [zpow_add₀ ten, zpow_natCast, mul_comm]
      _ ≤ 10 ^ (-330 : Int) := zpow_le_zpow_right₀ (by norm_num) small.le
      _ = ((10 ^ 66) ^ 5)⁻¹ := by rw [← pow_mul, zpow_neg, zpow_ofNat]
      _ ≤ ((2 ^ 215) ^ 5)⁻¹ :=
        inv_anti₀ (by positivity) (pow_le_pow_left₀ (by norm_num) (by norm_num) 5)
      _ = 2 ^ (-1075 : Int) := by rw [← pow_mul, zpow_neg, zpow_ofNat]
  · -- In between, digits and power are put together as they are.
    exact nearest_ofScientific (Nat.pos_of_ne_zero (by simpa using none)) numeral.exponent

/-! Signs. -/

/-- What is nearest to a number is, with the other sign, nearest to its negation. -/
theorem Nearest.neg {x : Float} {value : ℚ} (near : Nearest x value) : Nearest (-x) (-value) := by
  have double := isDouble_self near.number
  -- Any rival of the negation is, negated, a rival of the number itself.
  have mirrored (y : Float) (number : y.isNaN = false) :
      |-value - exact y| = |value - exact (-y)| := by
    rw [exact_neg number, ← abs_neg]
    ring_nf
  have itself : |-value - exact (-x)| = |value - exact x| := by
    rw [exact_neg near.number, ← abs_neg]
    ring_nf
  refine ⟨double.neg.number, fun y number => ?_, fun y number equal => ?_⟩
  · -- The rival is negated along with the double.
    rw [itself, mirrored y number]
    exact near.nearest (-y) (isDouble_self number).neg.number
  · -- If the rival is as near, so is its negation to the number itself.
    rw [itself, mirrored y number] at equal
    have other := near.even (-y) (isDouble_self number).neg.number equal
    rw [exact_neg number] at other
    rw [exact_neg near.number, double.neg.significand]
    exact other.imp_left fun same => by rw [← same, neg_neg]

end Scriptlet.Decimal

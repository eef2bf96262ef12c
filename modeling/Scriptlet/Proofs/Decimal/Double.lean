import Mathlib
import Scriptlet.Decimal.Binary

/-!
Doubles as exact numbers: what their bits say, and what packing a sign, a significand and an
exponent into bits makes of them.

Main statements: a packed number is the double of its sign and size, a double is unpacked to its
sign and size, and negation changes nothing but the sign.
-/

namespace Scriptlet.Decimal

open Float.Model Float.Model.UnpackedFloat

/-- The exact number that a size stands for. -/
def Binary.amount (size : Binary) : ℚ :=
  size.significand * 2 ^ size.exponent

/-- The exact number that a double is; an infinity counts as the power of two that comes next to
the largest doubles. -/
def exact (x : Float) : ℚ :=
  if isNegative x then -(Binary.ofFloat x).amount else (Binary.ofFloat x).amount

/-- The exponent field of a double. -/
def exponentField (x : Float) : Nat :=
  ((x.toBits >>> 52) &&& 0x7FF).toNat

/-- The fraction field of a double. -/
def fractionField (x : Float) : Nat :=
  (x.toBits &&& 0xFFFFFFFFFFFFF).toNat

/-- The bits of a double as the packing and unpacking of numbers sees them. -/
def bitsOf (x : Float) : BitVec Format.binary64.numBits :=
  x.toBits.toBitVec

/-- The sign of a packed number, from the sign bit. -/
def signOf (negative : Bool) : Sign :=
  if negative then .negative else .positive

/-- The significand is the fraction field, with the hidden bit in front if there is an exponent. -/
theorem significand_eq (x : Float) : (Binary.ofFloat x).significand =
    if exponentField x = 0 then fractionField x else 2 ^ 52 + fractionField x := by
  -- The test for a hidden bit is moved out of the reading of the significand.
  simp only [Binary.ofFloat, beq_iff_eq, apply_ite Binary.significand]
  rfl

/-- The exponent is what the exponent field says, less the bias; without one it is the least. -/
theorem exponent_eq (x : Float) : (Binary.ofFloat x).exponent =
    if exponentField x = 0 then -1074 else (exponentField x : Int) - 1075 := by
  -- The test for a hidden bit is moved out of the reading of the exponent.
  simp only [Binary.ofFloat, beq_iff_eq, apply_ite Binary.exponent]
  rfl

/-! The fields are parts of the bits, as the packing and unpacking of numbers sees them. -/

/-- The exponent field is the exponent that is unpacked. -/
theorem exponentField_eq (x : Float) :
    exponentField x = (unpackExponent (bitsOf x)).toNat := by
  -- To mask the eleven bits is to take the rest by their power of two.
  change (x.toBits.toNat >>> 52) &&& (2 ^ 11 - 1) = (x.toBits.toNat >>> 52) % 2 ^ 11
  rw [Nat.and_two_pow_sub_one_eq_mod]

/-- The fraction field is the mantissa that is unpacked. -/
theorem fractionField_eq (x : Float) :
    fractionField x = (unpackMantissa (bitsOf x)).toNat := by
  -- To mask the low bits is to take the rest by their power of two.
  change x.toBits.toNat &&& (2 ^ 52 - 1) = (x.toBits.toNat >>> 0) % 2 ^ 52
  rw [Nat.and_two_pow_sub_one_eq_mod, Nat.shiftRight_zero]

/-- The sign is the one that is unpacked. -/
theorem signOf_isNegative (x : Float) :
    signOf (isNegative x) = Sign.ofBitVec (unpackSign (bitsOf x)) := by
  have bit : (unpackSign (bitsOf x)).toNat = x.toBits.toNat >>> 63 := by
    change (x.toBits.toNat >>> 63) % 2 ^ 1 = x.toBits.toNat >>> 63
    have := x.toBits.toNat_lt
    omega
  have same : isNegative x = decide (x.toBits.toNat >>> 63 = 1) := by
    simp [isNegative, ← UInt64.toNat_inj, beq_eq_decide]
  have small : x.toBits.toNat >>> 63 < 2 := by
    have := x.toBits.toNat_lt
    omega
  -- The top bit of a word is zero or one, and one is the sign.
  simp only [same, signOf, Sign.ofBitVec, ← BitVec.toNat_inj, bit]
  grind

/-- A double is unpacked to what its fields say. -/
theorem unpack_eq (x : Float) : x.toModel.unpack =
    if exponentField x = 2047 then
      if fractionField x = 0 then .infinity (signOf (isNegative x)) else .notANumber
    else if exponentField x = 0 then
      if none : fractionField x = 0 then .zero (signOf (isNegative x))
      else .finite (signOf (isNegative x)) (fractionField x) (-1074) (Nat.pos_of_ne_zero none)
    else .finite (signOf (isNegative x)) (2 ^ 52 + fractionField x) (exponentField x - 1075)
      (by omega) := by
  -- Each test of the unpacking is one of a field against a number.
  have ones (field : BitVec 11) : field = -1#11 ↔ field.toNat = 2047 := BitVec.toNat_inj.symm
  have noExponent (field : BitVec 11) : field = 0#11 ↔ field.toNat = 0 := BitVec.toNat_inj.symm
  have noFraction (field : BitVec 52) : field = 0#52 ↔ field.toNat = 0 := BitVec.toNat_inj.symm
  -- The hidden bit stands in front of the fraction.
  have hidden (field : BitVec 52) : (1#1 ++ field).toNat = 2 ^ 52 + field.toNat := by
    rw [BitVec.toNat_append, BitVec.toNat_ofNat, Nat.shiftLeft_eq]
    exact (Nat.two_pow_add_eq_or_of_lt field.isLt 1).symm
  have bias : ((Format.binary64.exponentBias : Nat) : Int) + (52 : Nat) = 1075 := rfl
  change UnpackedFloat.unpack .binary64 (bitsOf x) = _
  rw [UnpackedFloat.unpack]
  change (if _ = -1#11 then if _ = 0#52 then _ else _
    else if _ = 0#11 then if _ : _ = 0#52 then _ else _ else _) = _
  simp only [← signOf_isNegative, ones, noExponent, noFraction, ← exponentField_eq,
    ← fractionField_eq, hidden, bias]
  -- Without an exponent that bit is missing, and the scale is that of the least exponent.
  split_ifs with _ _ none
  · rfl
  · rfl
  · rfl
  · simp only [none, Nat.cast_zero, Int.zero_sub, finite.injEq, true_and]
    decide
  · rfl

/-- A double is a number unless its exponent field is full and its fraction field is not empty. -/
theorem isNaN_eq_false_iff (x : Float) :
    x.isNaN = false ↔ (exponentField x = 2047 → fractionField x = 0) := by
  change x.toModel.unpack.isNaN = false ↔ _
  rw [unpack_eq]
  -- Only one of the kinds that it may be unpacked to is NaN.
  split_ifs <;> simp_all [UnpackedFloat.isNaN]

/-- Whether a double is the number of a sign and a size. -/
structure IsDouble (x : Float) (negative : Bool) (significand : Nat) (exponent : Int) : Prop where
  /-- It is a number. -/
  number : x.isNaN = false
  /-- The sign is this one. -/
  sign : isNegative x = negative
  /-- The significand is this one. -/
  significand : (Binary.ofFloat x).significand = significand
  /-- The exponent is this one. -/
  exponent : (Binary.ofFloat x).exponent = exponent

variable {x : Float} {negative : Bool} {significand : Nat} {exponent : Int}

/-- Different signs are packed differently. -/
theorem signOf_injective {first second : Bool} (same : signOf first = signOf second) :
    first = second := by
  cases first <;> cases second <;> first | rfl | cases same

/-- The sign is turned around when it is negated. -/
theorem signOf_not (negative : Bool) : -signOf negative = signOf !negative := by
  cases negative <;> rfl

/-- The fields of packed components are those components. -/
theorem fields_of_components {fieldBits : BitVec 11} {fractionBits : BitVec 52}
    (bits : bitsOf x = packComponents .binary64 (signOf negative) fieldBits fractionBits) :
    isNegative x = negative ∧ exponentField x = fieldBits.toNat ∧
      fractionField x = fractionBits.toNat := by
  -- What is packed is unpacked again, one component after the other.
  refine ⟨signOf_injective ?_, ?_, ?_⟩
  · rw [signOf_isNegative, bits, unpackSign_packComponents, Sign.ofBitVec_toBitVec]
  · rw [exponentField_eq, bits, unpackExponent_packComponents]
  · rw [fractionField_eq, bits, unpackMantissa_packComponents]

/-- A packed infinity counts as the power of two next to the largest doubles. -/
theorem isDouble_infinity (negative : Bool) :
    IsDouble ⟨Float.Model.pack (.infinity (signOf negative))⟩ negative (2 ^ 52) 972 := by
  cases negative <;> exact ⟨rfl, rfl, rfl, rfl⟩

/-- A packed zero has no significand, and the least exponent. -/
theorem isDouble_zero (negative : Bool) :
    IsDouble ⟨Float.Model.pack (.zero (signOf negative))⟩ negative 0 (-1074) := by
  cases negative <;> exact ⟨rfl, rfl, rfl, rfl⟩

/-- Whether a size is that of a finite double, with as many bits as there is room for. -/
structure Fits (significand : Nat) (exponent : Int) : Prop where
  /-- The significand has at most as many bits as there is room for. -/
  below : significand < 2 ^ 53
  /-- It has fewer only at the least exponent. -/
  full : 2 ^ 52 ≤ significand ∨ exponent = -1074
  /-- There is a least exponent. -/
  least : -1074 ≤ exponent

/-- A significand with all its bits has its highest bit at the place of the hidden one. -/
theorem log2_of_full {significand : Nat} (low : 2 ^ 52 ≤ significand)
    (high : significand < 2 ^ 53) : significand.log2 = 52 :=
  (Nat.log2_eq_iff (by omega)).mpr ⟨low, high⟩

/-- The hidden bit of a significand is not packed; where it is missing, so is the exponent. -/
theorem pack_finite (sign : Sign) (fits : Fits significand exponent) (most : exponent ≤ 971)
    (pos : 0 < significand) :
    UnpackedFloat.pack .binary64 (.finite sign significand exponent pos) =
      packComponents .binary64 sign
        (.ofNat 11 (if 2 ^ 52 ≤ significand then (exponent + 1075).toNat else 0))
        (.ofNat 52 significand) := by
  obtain ⟨below, full, least⟩ := fits
  have bias : ((Format.binary64.exponentBias : Nat) : Int) +
    ((Format.binary64.mantissaBitsWithoutImplicit : Nat) : Int) = 1075 := rfl
  have bits : Format.binary64.mantissaBits = 53 := rfl
  have range : ¬2 ^ Format.binary64.exponentBits ≤ (exponent + 1075).toNat + 1 := by
    change ¬2048 ≤ _
    omega
  simp only [UnpackedFloat.pack, Int.add_assoc, bias, bits, if_neg range]
  -- A significand with all its bits is packed with an exponent, and a shorter one without.
  by_cases hidden : 2 ^ 52 ≤ significand
  · rw [if_pos hidden, if_pos (by rw [log2_of_full hidden below])]
  · have short : significand.log2 < 52 := (Nat.log2_lt pos.ne').mpr (by omega)
    rw [if_neg hidden, if_neg (by omega)]

/-- A packed number is the double of its sign and its size. -/
theorem isDouble_pack (fits : Fits significand exponent) (most : exponent ≤ 971)
    (pos : 0 < significand) :
    IsDouble ⟨Float.Model.pack (.finite (signOf negative) significand exponent pos)⟩ negative
      significand exponent := by
  obtain ⟨sign, field, fraction⟩ := fields_of_components
    (x := ⟨Float.Model.pack (.finite (signOf negative) significand exponent pos)⟩)
    (pack_finite (signOf negative) fits most pos)
  obtain ⟨below, full, least⟩ := fits
  -- Neither field is too large for its bits, but for the hidden bit.
  rw [BitVec.toNat_ofNat] at field fraction
  generalize (⟨Float.Model.pack (.finite (signOf negative) significand exponent pos)⟩ : Float) = x
    at *
  refine ⟨(isNaN_eq_false_iff x).mpr ?_, sign, ?_, ?_⟩
  · -- The exponent field is not full, as there are larger exponents than this one.
    split_ifs at field <;> omega
  · -- The hidden bit is put back where it has been left out.
    rw [significand_eq]
    split_ifs at field ⊢ <;> omega
  · -- The bias is taken off again, and without an exponent field the exponent is the least.
    rw [exponent_eq]
    split_ifs at field ⊢ <;> omega

/-- A number that lies beyond the largest exponent is packed as an infinity. -/
theorem pack_of_large (sign : Sign) (large : 972 ≤ exponent) (pos : 0 < significand) :
    UnpackedFloat.pack .binary64 (.finite sign significand exponent pos) =
      UnpackedFloat.pack .binary64 (.infinity sign) := by
  have bias : ((Format.binary64.exponentBias : Nat) : Int) +
    ((Format.binary64.mantissaBitsWithoutImplicit : Nat) : Int) = 1075 := rfl
  -- With its bias, the exponent needs more bits than the field has.
  have range : 2 ^ Format.binary64.exponentBits ≤ (exponent + 1075).toNat + 1 := by
    change 2048 ≤ _
    omega
  simp only [UnpackedFloat.pack, Int.add_assoc, bias, if_pos range]

/-! What a double holds. -/

/-- The fields of a double are as wide as their bits. -/
theorem fields_small (x : Float) : exponentField x < 2048 ∧ fractionField x < 2 ^ 52 := by
  rw [exponentField_eq, fractionField_eq]
  exact ⟨BitVec.isLt _, BitVec.isLt _⟩

namespace IsDouble

/-- What is a number fits; the largest exponent is that of the infinities. -/
theorem fits (double : IsDouble x negative significand exponent) :
    Fits significand exponent ∧ (exponent ≤ 971 ∨ significand = 2 ^ 52 ∧ exponent = 972) := by
  -- What the fields say of the size is within the bounds that the fields have.
  obtain ⟨number, -, rfl, rfl⟩ := double
  rw [isNaN_eq_false_iff] at number
  obtain ⟨field, fraction⟩ := fields_small x
  rw [significand_eq, exponent_eq]
  split_ifs with none
  · -- Without an exponent field, the exponent is the least.
    exact ⟨⟨by omega, .inr rfl, by omega⟩, .inl (by omega)⟩
  · -- With one, the hidden bit stands in front of the fraction.
    exact ⟨⟨by omega, .inl (by omega), by omega⟩, by omega⟩

/-- A double with a significand that is not too large is unpacked to its sign and size. -/
theorem unpack_finite (double : IsDouble x negative significand exponent) (most : exponent ≤ 971)
    (pos : 0 < significand) :
    x.toModel.unpack = .finite (signOf negative) significand exponent pos := by
  -- The field without an exponent and the field with one are unpacked differently.
  obtain ⟨-, rfl, rfl, rfl⟩ := double
  have size := significand_eq x
  have scale := exponent_eq x
  by_cases none : exponentField x = 0
  · rw [if_pos none] at size scale
    rw [unpack_eq, if_neg (by omega), if_pos none, dif_neg (by omega)]
    simp only [size, scale]
  · rw [if_neg none] at size scale
    rw [unpack_eq, if_neg (by omega), if_neg none]
    simp only [size, scale]

/-- A double with the largest exponent is unpacked to an infinity. -/
theorem unpack_infinity (double : IsDouble x negative significand 972) :
    x.toModel.unpack = .infinity (signOf negative) := by
  obtain ⟨number, rfl, -, scale⟩ := double
  rw [isNaN_eq_false_iff] at number
  rw [exponent_eq] at scale
  split_ifs at scale
  -- Only a full exponent field gives the largest exponent.
  have top : exponentField x = 2047 := by omega
  rw [unpack_eq, if_pos top, if_pos (number top)]

/-- A double without a significand is unpacked to a zero. -/
theorem unpack_zero (double : IsDouble x negative 0 exponent) :
    x.toModel.unpack = .zero (signOf negative) := by
  obtain ⟨-, rfl, size, -⟩ := double
  rw [significand_eq] at size
  -- With an exponent there would be a hidden bit.
  have none : exponentField x = 0 := by
    by_contra some
    rw [if_neg some] at size
    omega
  rw [if_pos none] at size
  rw [unpack_eq, if_neg (by omega), if_pos none, dif_pos size]

/-- Negation changes nothing but the sign. -/
theorem neg (double : IsDouble x negative significand exponent) :
    IsDouble (-x) (!negative) significand exponent := by
  obtain ⟨fits, most⟩ := double.fits
  change IsDouble ⟨Float.Model.pack x.toModel.unpack.neg⟩ _ _ _
  -- Finite numbers, zeros and infinities are unpacked and packed each in their own way.
  rcases most with most | ⟨rfl, rfl⟩
  · rcases Nat.eq_zero_or_pos significand with rfl | pos
    · obtain rfl : exponent = -1074 := fits.full.resolve_left (by decide)
      rw [double.unpack_zero, UnpackedFloat.neg, signOf_not]
      exact isDouble_zero _
    · rw [double.unpack_finite most pos, UnpackedFloat.neg, signOf_not]
      exact isDouble_pack fits most pos
  · rw [double.unpack_infinity, UnpackedFloat.neg, signOf_not]
    exact isDouble_infinity _

end IsDouble

/-- What is a number is the double of some sign and size. -/
theorem isDouble_self (number : x.isNaN = false) :
    IsDouble x (isNegative x) (Binary.ofFloat x).significand (Binary.ofFloat x).exponent :=
  ⟨number, rfl, rfl, rfl⟩

/-- The exact value of a double is its size under its sign. -/
theorem IsDouble.exact_eq (double : IsDouble x negative significand exponent) :
    exact x =
      if negative then -(significand * 2 ^ exponent : ℚ) else significand * 2 ^ exponent := by
  obtain ⟨-, rfl, rfl, rfl⟩ := double
  rfl

/-- The exact value of a negated number is the negated value. -/
theorem exact_neg (number : x.isNaN = false) : exact (-x) = -exact x := by
  have double := isDouble_self number
  rw [double.exact_eq, double.neg.exact_eq]
  -- The sign is turned around in front of the same size.
  cases isNegative x <;> simp

/-- An infinity counts as the power of two that its size would be. -/
theorem IsDouble.exact_of_infinite (infinite : IsDouble x false (2 ^ 52) 972) :
    exact x = 2 ^ 1024 := by
  -- The significand and the exponent make up one power of two.
  rw [infinite.exact_eq, if_neg Bool.false_ne_true, zpow_ofNat, Nat.cast_pow, Nat.cast_ofNat,
    ← pow_add]

/-- Without its sign, the exact value of a double is its size. -/
theorem IsDouble.abs_exact (double : IsDouble x negative significand exponent) :
    |exact x| = significand * 2 ^ exponent := by
  have size : (0 : ℚ) ≤ significand * 2 ^ exponent := by positivity
  rw [double.exact_eq]
  split
  · -- The sign is dropped.
    rw [abs_neg, abs_of_nonneg size]
  · -- There is no sign to be dropped.
    exact abs_of_nonneg size

/-- No double lies beyond the infinities. -/
theorem abs_exact_le (number : x.isNaN = false) : |exact x| ≤ 2 ^ 1024 := by
  have double := isDouble_self number
  obtain ⟨⟨below, -, -⟩, most⟩ := double.fits
  rw [double.abs_exact]
  generalize (Binary.ofFloat x).significand = significand at *
  generalize (Binary.ofFloat x).exponent = exponent at *
  rcases most with most | ⟨rfl, rfl⟩
  · -- A finite double has less than the significand that is too wide, at the largest exponent at
    -- most.
    have short : (significand : ℚ) ≤ 2 ^ 53 := by exact_mod_cast below.le
    calc (significand : ℚ) * 2 ^ exponent
        ≤ 2 ^ 53 * 2 ^ (971 : Int) :=
          mul_le_mul short (zpow_le_zpow_right₀ (by norm_num) most) (by positivity) (by norm_num)
      _ = 2 ^ 1024 := by rw [zpow_ofNat, ← pow_add]
  · -- An infinity lies exactly there.
    rw [zpow_ofNat, Nat.cast_pow, Nat.cast_ofNat, ← pow_add]

end Scriptlet.Decimal

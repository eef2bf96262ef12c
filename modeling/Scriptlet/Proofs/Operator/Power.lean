import Mathlib.Algebra.Order.Ring.Int
import Mathlib.Tactic.Ring
import Scriptlet.Operator

/-!
Powers of integers.

Main statement: a power of integers is the exact power cut to 64 bits once, a negative exponent
gives the quotient of one by the exact power cut towards zero, and nothing on the way overflows.
-/

namespace Scriptlet.Operator

/-- A power is the power of the square to half of the exponent, once more if that is odd. -/
theorem pow_halves (square : Int) (exponent : Nat) :
    square ^ exponent = square ^ (exponent % 2) * (square * square) ^ (exponent / 2) := by
  -- The exponent is twice its half and the remainder.
  rw [← pow_two, ← pow_mul, ← pow_add, Nat.mod_add_div]

/-- Whatever the loop starts from, it multiplies by the exact power and cuts the product once. -/
theorem powerFrom_ofInt (product square : Int) (exponent : Nat) :
    powerFrom (.ofInt product) (.ofInt square) exponent = .ofInt (product * square ^ exponent) := by
  -- The exponent is halved in each round, so the product and the square stay quantified over.
  induction exponent using Nat.strong_induction_on generalizing product square with
  | _ exponent ih =>
    rw [powerFrom]
    by_cases done : exponent = 0
    · simp [done]
    have smaller : exponent / 2 < exponent := Nat.div_lt_self (Nat.pos_of_ne_zero done) one_lt_two
    simp only [if_neg done, ← Int64.ofInt_mul]
    -- Cutting to 64 bits goes through products, so one cut of the exact product is left.
    rcases Nat.mod_two_eq_zero_or_one exponent with even | odd
    · rw [if_neg (by omega), ih _ smaller, pow_halves square exponent, even, pow_zero, one_mul]
    · rw [if_pos odd, ih _ smaller, pow_halves square exponent, odd, pow_one, mul_assoc]

/-- The powers of minus one are units, and the remainder of the exponent tells which. -/
theorem neg_one_pow_natAbs (exponent : Int) :
    (-1 : Int) ^ exponent.natAbs = if exponent.tmod 2 = 0 then 1 else -1 := by
  -- The exponent is even where its remainder is zero, whatever its sign.
  have even_iff : exponent.tmod 2 = 0 ↔ Even exponent.natAbs := by
    rw [Nat.even_iff, ← Int.dvd_iff_tmod_eq_zero]
    omega
  by_cases even : Even exponent.natAbs
  · rw [even.neg_one_pow, if_pos (even_iff.mpr even)]
  · rw [(Nat.not_even_iff_odd.mp even).neg_one_pow, if_neg fun zero => even (even_iff.mp zero)]

/-- One over a power of a number beyond the units is cut to nothing. -/
theorem one_tdiv_pow {base : Int} (large : 1 < base.natAbs) {exponent : Nat}
    (positive : exponent ≠ 0) : Int.tdiv 1 (base ^ exponent) = 0 := by
  -- The power is beyond the units, as its base is.
  have larger : 1 < (base ^ exponent).natAbs := by
    rw [Int.natAbs_pow]
    exact Nat.one_lt_pow positive large
  -- The sign of the power makes no difference once the quotient is cut.
  rcases Int.natAbs_eq (base ^ exponent) with same | same <;> rw [same]
  · exact Int.tdiv_eq_zero_of_lt one_pos.le (by omega)
  · rw [Int.tdiv_neg, Int.tdiv_eq_zero_of_lt one_pos.le (by omega), neg_zero]

/-- A power with a negative exponent is one over the exact power, cut towards zero. -/
theorem integerPower_of_neg {base exponent : Int64} (negative : exponent < 0) (filled : base ≠ 0) :
    ∃ result, integerPower base exponent = .ok result ∧
      result.toInt = Int.tdiv 1 (base.toInt ^ exponent.toInt.natAbs) := by
  -- Zero, one and minus one are told apart, and all other bases are large.
  have below : exponent.toInt < 0 := Int64.lt_iff_toInt_lt.mp negative
  simp only [integerPower, if_pos negative, beq_iff_eq, if_neg filled]
  by_cases one : base = 1
  · exact ⟨1, if_pos one, by simp [one]⟩
  rw [if_neg one]
  by_cases minus : base = -1
  · -- The remainder of a negative number is zero or minus one.
    refine ⟨_, if_pos minus, ?_⟩
    have even_iff : exponent % 2 = 0 ↔ exponent.toInt.tmod 2 = 0 := by
      rw [← Int64.toInt_inj, Int64.toInt_mod]
      rfl
    have value : base.toInt = -1 := by rw [minus]; rfl
    rw [value, neg_one_pow_natAbs]
    by_cases even : exponent % 2 = 0
    · rw [if_pos even, if_pos (even_iff.mp even)]
      rfl
    · rw [if_neg even, if_neg fun zero => even (even_iff.mpr zero)]
      rfl
  · -- Any other base is at least two in size, and one over its powers is cut to nothing.
    refine ⟨0, if_neg minus, ?_⟩
    have large : 1 < base.toInt.natAbs := by
      have zero : base.toInt ≠ 0 := fun same => filled (Int64.toInt_inj.mp same)
      have unit : base.toInt ≠ 1 := fun same => one (Int64.toInt_inj.mp same)
      have other : base.toInt ≠ -1 := fun same => minus (Int64.toInt_inj.mp same)
      omega
    rw [one_tdiv_pow large (by omega)]
    rfl

/-! What does not wrap around on the way is checked. -/

/-- The remainder of a division, if the divisor is not zero and the quotient stays in range. -/
def remainder? (dividend divisor : Int64) : Option Int64 :=
  if divisor = 0 ∨ (dividend = Int64.minValue ∧ divisor = -1) then none
  else some (dividend % divisor)

/-- The size of a number as a word without sign, if it fits. -/
def size? (n : Int64) : Option UInt64 :=
  if n.toInt.natAbs < UInt64.size then some (.ofNat n.toInt.natAbs) else none

/-- A word shifted to the right, if by fewer places than it has. -/
def shifted? (word places : UInt64) : Option UInt64 :=
  if places < 64 then some (word >>> places) else none

/-- A word that is not zero can be halved, which makes it smaller. -/
theorem toNat_of_shifted? {word half : UInt64} (shifted : shifted? word 1 = some half) :
    half.toNat = word.toNat / 2 := by
  -- A shift by one place is always made.
  cases shifted
  rw [UInt64.toNat_shiftRight]
  exact Nat.shiftRight_one _

/-- The loop of repeated squaring on words, every step that does not wrap around checked. -/
def powerFrom? (product square : Int64) (exponent : UInt64) : Option Int64 :=
  if _zero : exponent = 0 then some product
  else
    match _halved : shifted? exponent 1 with
    | none => none
    | some half =>
      powerFrom? (if exponent &&& 1 = 1 then product * square else product) (square * square) half
termination_by exponent.toNat
decreasing_by
  have positive : exponent.toNat ≠ 0 := fun same => _zero (UInt64.toNat_inj.mp same)
  rw [toNat_of_shifted? _halved]
  omega

/-- A power of integers on words, every step that does not wrap around checked. -/
def integerPower? (base exponent : Int64) : Option (Except EvalError Int64) :=
  if exponent < 0 then
    if base == 0 then some (.error .divisionByZero)
    else if base == 1 then some (.ok 1)
    else if base == -1 then do
      let rest ← remainder? exponent 2
      return .ok (if rest == 0 then 1 else -1)
    else some (.ok 0)
  else do
    let size ← size? exponent
    let result ← powerFrom? 1 base size
    return .ok result

/-- No round of the loop overflows, and the loop on words does what the loop on numbers does. -/
theorem powerFrom?_eq (product square : Int64) (exponent : UInt64) :
    powerFrom? product square exponent = some (powerFrom product square exponent.toNat) := by
  -- The cases are those of the loop on words: no exponent left, no shift, a round and the rest.
  fun_induction powerFrom? product square exponent with
  | case1 product square =>
    rw [powerFrom]
    rfl
  | case2 product square exponent zero failed => cases failed
  | case3 product square exponent zero half halved ih =>
    -- The lowest bit of the word is the remainder of the number, and the shift is its half.
    have positive : exponent.toNat ≠ 0 := fun same => zero (UInt64.toNat_inj.mp same)
    have odd_iff : exponent &&& 1 = 1 ↔ exponent.toNat % 2 = 1 := by
      rw [← UInt64.toNat_inj, UInt64.toNat_and]
      exact Eq.congr_left (Nat.and_one_is_mod _)
    simp only [dite_eq_ite] at ih
    rw [ih, toNat_of_shifted? halved]
    conv_rhs => rw [powerFrom, if_neg positive]
    simp only [odd_iff]

/-- No step of a power overflows, whatever the numbers. -/
theorem integerPower?_eq (base exponent : Int64) :
    integerPower? base exponent = some (integerPower base exponent) := by
  -- Both go the same way, so that each step of the checked one has only to be made.
  unfold integerPower? integerPower
  by_cases negative : exponent < 0
  · simp only [if_pos negative]
    -- Two divides everything without overflow.
    have two : ¬((2 : Int64) = 0 ∨ exponent = Int64.minValue ∧ (2 : Int64) = -1) := by
      rintro (zero | ⟨-, minus⟩)
      · exact absurd zero (by decide)
      · exact absurd minus (by decide)
    have rest : remainder? exponent 2 = some (exponent % 2) := if_neg two
    simp only [rest, Option.bind_eq_bind, Option.bind_some]
    split_ifs <;> rfl
  · -- An exponent that is not negative is its own size, and fits into a word.
    simp only [if_neg negative]
    have least : 0 ≤ exponent.toInt := by
      have := fun below => negative (Int64.lt_iff_toInt_lt.mpr below)
      exact Int.not_lt.mp this
    have size : size? exponent = some (.ofNat exponent.toInt.toNat) := by
      have := Int64.toInt_lt exponent
      rw [size?, if_pos (by simp only [UInt64.size]; omega)]
      congr 2
      omega
    have same : (UInt64.ofNat exponent.toInt.toNat).toNat = exponent.toInt.toNat := by
      have := Int64.toInt_lt exponent
      exact UInt64.toNat_ofNat_of_lt' (by simp only [UInt64.size]; omega)
    simp only [size, Option.bind_eq_bind, Option.bind_some, powerFrom?_eq, same]
    rfl

/--
A power of integers is exact, cut to 64 bits once; a negative exponent gives a quotient cut towards
zero, which zero has none of.

No step that does not wrap around overflows on the way, whatever the two numbers.
-/
theorem integerPower_exact (base exponent : Int64) :
    (0 ≤ exponent → ∃ result, integerPower base exponent = .ok result ∧
      result.toInt = (base.toInt ^ exponent.toInt.toNat).bmod (2 ^ 64)) ∧
    (exponent < 0 → base ≠ 0 → ∃ result, integerPower base exponent = .ok result ∧
      result.toInt = Int.tdiv 1 (base.toInt ^ exponent.toInt.natAbs)) ∧
    (exponent < 0 → base = 0 → integerPower base exponent = .error .divisionByZero) ∧
    integerPower? base exponent = some (integerPower base exponent) := by
  refine ⟨fun least => ?_, integerPower_of_neg, ?_, integerPower?_eq base exponent⟩
  · -- The loop starts from one, and from the base as it is.
    have product := powerFrom_ofInt 1 base.toInt exponent.toInt.toNat
    rw [Int64.ofInt_toInt, one_mul] at product
    refine ⟨_, if_neg (Int64.not_lt.mpr least), ?_⟩
    exact (congrArg Int64.toInt product).trans Int64.toInt_ofInt
  · rintro negative rfl
    rw [integerPower, if_pos negative]
    rfl

/-- A power that wraps around, and the least exponent with the least base, with zero and with minus
one. -/
theorem integerPower_exact_extremes :
    (∃ result, integerPower (-3) 41 = .ok result ∧ result.toInt = ((-3 : Int) ^ 41).bmod (2 ^ 64)) ∧
    (∃ result, integerPower Int64.minValue Int64.minValue = .ok result ∧
      result.toInt = Int.tdiv 1 (Int64.minValue.toInt ^ Int64.minValue.toInt.natAbs)) ∧
    integerPower 0 Int64.minValue = .error .divisionByZero ∧
    integerPower? (-1) Int64.minValue = some (integerPower (-1) Int64.minValue) :=
  ⟨(integerPower_exact (-3) 41).1 (by decide),
    (integerPower_exact Int64.minValue Int64.minValue).2.1 (by decide) (by decide),
    (integerPower_exact 0 Int64.minValue).2.2.1 (by decide) rfl,
    (integerPower_exact (-1) Int64.minValue).2.2.2⟩

end Scriptlet.Operator

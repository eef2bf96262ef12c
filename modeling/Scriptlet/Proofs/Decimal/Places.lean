import Scriptlet.Decimal.Binary
import Scriptlet.Proofs.Decimal.Rounding
import Scriptlet.Proofs.Decimal.Written

/-!
Doubles that are shown with a number of decimal places.

Main statement: what is shown is the exact number rounded to those places, with halves going to
even, in the one form that has no superfluous zeros and no sign in front of zero.
-/

namespace Scriptlet.Decimal

open Float.Model.UnpackedFloat

/-! Whole numbers in decimal. -/

/-- A whole number in decimal consists of digits. -/
theorem isDigit_of_mem_whole {n : Nat} {c : Char} (member : c ∈ whole n) : isDigit c = true := by
  -- The library's test for a digit is by code points as well, only of another type.
  have digit := Nat.isDigit_of_mem_toDigits (by decide) (by decide) member
  simp only [Char.isDigit, Bool.and_eq_true, decide_eq_true_eq, ge_iff_le,
    UInt32.le_iff_toNat_le] at digit
  simp only [isDigit, Bool.and_eq_true, decide_eq_true_eq]
  exact digit

/-- A whole number in decimal is a run of digits that is not empty. -/
theorem digits_whole (n : Nat) : Digits (whole n) :=
  ⟨Nat.toDigits_ne_nil, fun _ => isDigit_of_mem_whole⟩

/-- A number of one digit is written as this digit. -/
theorem whole_digit {n : Nat} (small : n < 10) : whole n = [digitChar n] := by
  -- There are ten of them.
  have each : ∀ n : Fin 10, whole n = [digitChar n] := by decide
  exact each ⟨n, small⟩

/-- A larger number is written as the number without its last digit, and that digit. -/
theorem whole_step {n : Nat} (large : 10 ≤ n) :
    whole n = whole (n / 10) ++ [digitChar (n % 10)] := by
  rw [whole, Nat.toDigits_of_base_le (by decide) large, ← whole, ← whole_digit (Nat.mod_lt n _),
    whole, whole, Nat.toDigits_of_lt_base (Nat.mod_lt n _)] <;> decide

/-- A whole number is read as what it has been written from. -/
theorem value_whole (n : Nat) : value (whole n) = n := by
  -- The last digit is taken off, and the rest is a smaller number.
  induction n using Nat.strongRecOn with
  | ind n ih =>
    rcases Nat.lt_or_ge n 10 with small | large
    · rw [whole_digit small]
      simp [value, valueFrom, (isDigit_digitChar small).2]
    · have last := isDigit_digitChar (Nat.mod_lt n (by decide : 0 < 10))
      rw [whole_step large, value_append, ih (n / 10) (by omega)]
      simp only [List.length_singleton, value, valueFrom, List.foldl_cons, List.foldl_nil, last.2]
      omega

/-- A number other than zero does not start with a zero. -/
theorem head_whole {n : Nat} (pos : 0 < n) : (whole n).head? ≠ some '0' := by
  -- The first digit is that of the number without its last digit, down to a number of one digit.
  induction n using Nat.strongRecOn with
  | ind n ih =>
    rcases Nat.lt_or_ge n 10 with small | large
    · have each : ∀ n : Fin 10, 0 < n.val → [digitChar n].head? ≠ some '0' := by decide
      rw [whole_digit small]
      exact each ⟨n, small⟩ pos
    · have some : whole (n / 10) ≠ [] := (digits_whole _).1
      rw [whole_step large, List.head?_append_of_ne_nil _ some]
      exact ih (n / 10) (by omega) (by omega)

/-! Digits behind the point. -/

/-- Where digits are written at a width in front of digits, all are digits. -/
theorem isDigit_of_mem_lastDigits {width n : Nat} {tail : List Char} {c : Char}
    (all : ∀ c ∈ tail, isDigit c = true) (member : c ∈ lastDigits width n tail) :
    isDigit c = true := by
  -- By induction on the width: each step puts one more digit in front of the tail.
  induction width generalizing n tail with
  | zero => exact all c member
  | succ width ih =>
    refine ih (fun d inside => ?_) member
    rcases List.mem_cons.mp inside with rfl | inside
    · exact (isDigit_digitChar (Nat.mod_lt n (by decide))).1
    · exact all d inside

/-- The digits behind the point, without the zeros at their end. -/
def fractionDigits (places units : Nat) : List Char :=
  ((lastDigits places units []).reverse.dropWhile (· == '0')).reverse

/-- The text behind the point is a point and the digits that are left, or nothing. -/
theorem fractionText_eq (places units : Nat) : fractionText places units =
    if fractionDigits places units = [] then [] else '.' :: fractionDigits places units := by
  -- The two cases are those in which digits are left or not.
  unfold fractionText fractionDigits
  split
  case h_1 none => rw [if_pos none]
  case h_2 some => rw [if_neg some]

/-- Only zeros are left out. -/
theorem exists_zeros (places units : Nat) : ∃ zeros,
    lastDigits places units [] = fractionDigits places units ++ List.replicate zeros '0' := by
  -- Zeros are dropped from the front of the reversed digits, so all that is dropped are zeros.
  have parts := List.takeWhile_append_dropWhile (p := (· == '0'))
    (l := (lastDigits places units []).reverse)
  generalize taken : (lastDigits places units []).reverse.takeWhile (· == '0') = zeros at parts
  have same : zeros.reverse = List.replicate zeros.length '0' := by
    refine List.eq_replicate_iff.mpr ⟨List.length_reverse, fun c member => ?_⟩
    have zero := List.mem_takeWhile_imp (taken ▸ List.mem_reverse.mp member)
    simpa using zero
  refine ⟨zeros.length, ?_⟩
  rw [fractionDigits, ← same, ← List.reverse_append, parts, List.reverse_reverse]

/-- Zeros at the end of a number are powers of ten that it is multiplied by. -/
theorem value_zeros (digits : List Char) (zeros : Nat) :
    value (digits ++ List.replicate zeros '0') = value digits * 10 ^ zeros := by
  -- By themselves, zeros denote zero.
  have none : value (List.replicate zeros '0') = 0 := by
    induction zeros with
    | zero => rfl
    | succ zeros ih =>
      rw [List.replicate_succ', value_append, ih]
      decide
  rw [value_append, none, List.length_replicate, Nat.add_zero]

/-- What is left does not end in a zero. -/
theorem getLast?_fractionDigits (places units : Nat) :
    (fractionDigits places units).getLast? ≠ some '0' := by
  -- The zeros have been dropped from the front of what is then turned around.
  intro last
  have first := List.head?_dropWhile_not (· == '0') (lastDigits places units []).reverse
  rw [fractionDigits, List.getLast?_reverse] at last
  rw [last] at first
  cases first

/-- What is left denotes the same fraction. -/
theorem value_fractionDigits (places units : Nat) :
    (value (fractionDigits places units) : ℚ) / 10 ^ (fractionDigits places units).length =
      (units % 10 ^ places : ℕ) / 10 ^ places := by
  -- A zero less at the end is a place less to divide by.
  obtain ⟨zeros, parts⟩ := exists_zeros places units
  have all : value (lastDigits places units []) = units % 10 ^ places := by
    have read := valueFrom_lastDigits places units 0 []
    simpa [value, valueFrom, powerOfTen] using read
  have width : (lastDigits places units []).length = places := by
    rw [length_lastDigits, List.length_nil, Nat.add_zero]
  rw [parts, List.length_append, List.length_replicate] at width
  rw [parts, value_zeros] at all
  generalize fractionDigits places units = digits at *
  rw [← all, ← width, pow_add]
  push_cast
  field_simp

/-- There are not more digits than places. -/
theorem length_fractionDigits (places units : Nat) :
    (fractionDigits places units).length ≤ places := by
  -- The digits and the zeros that are left out fill the places.
  obtain ⟨zeros, parts⟩ := exists_zeros places units
  have width := congrArg List.length parts
  rw [length_lastDigits, List.length_append, List.length_nil] at width
  omega

/-- What is left behind the point are digits. -/
theorem isDigit_of_mem_fractionDigits {places units : Nat} {c : Char}
    (member : c ∈ fractionDigits places units) : isDigit c = true := by
  -- It is a part of what has been written at the width.
  obtain ⟨zeros, parts⟩ := exists_zeros places units
  have inside : c ∈ lastDigits places units [] := by
    rw [parts]
    exact List.mem_append_left _ member
  exact isDigit_of_mem_lastDigits (by simp) inside

/-! Rounding. -/

/-- A rounded quotient is the whole number nearest to the exact one. -/
theorem roundsTo_roundHalfEven (n : Nat) {d : Nat} (pos : 0 < d) :
    RoundsTo (n / d : ℚ) (roundHalfEven n d) := by
  have same : roundHalfEven n d = (accuracyOfFraction (n % d) d).roundToNearestEven (n / d) := by
    simp only [roundHalfEven]
    generalize n / d = quotient
    generalize n % d = rest
    -- Both compare twice the remainder with the divisor, and no remainder at all is below it.
    unfold accuracyOfFraction
    by_cases none : rest = 0
    · rw [if_pos none, none, Nat.mul_zero, Nat.compare_eq_lt.mpr pos]
      rfl
    · rw [if_neg none]
      cases compare (2 * rest) d with
      | lt => rfl
      | gt => rfl
      | eq =>
        rcases Nat.mod_two_eq_zero_or_one quotient with even | odd
        · simp [even, Accuracy.roundToNearestEven]
        · simp [odd, Accuracy.roundToNearestEven]
  rw [same]
  exact roundsTo_roundToNearestEven (located_accuracyOfFraction n pos)

/-- Whether a number is another one rounded to a number of decimal places. -/
def RoundsToPlaces (places : Nat) (value rounded : ℚ) : Prop :=
  ∃ n : ℤ, rounded = n / 10 ^ places ∧ RoundsTo (value * 10 ^ places) n

/-- There is one number to round to. -/
theorem RoundsToPlaces.unique {places : Nat} {value first second : ℚ}
    (one : RoundsToPlaces places value first) (other : RoundsToPlaces places value second) :
    first = second := by
  obtain ⟨m, rfl, rounds⟩ := one
  obtain ⟨n, rfl, rounds'⟩ := other
  rw [rounds.unique rounds']

/-- A negated number is rounded to the negated result. -/
theorem RoundsTo.neg {value : ℚ} {n : ℤ} (rounds : RoundsTo value n) : RoundsTo (-value) (-n) := by
  -- Both are as far from each other as before, and evenness does not see the sign.
  have same : |-value - (-n : ℤ)| = |value - n| := by
    rw [← abs_neg]
    push_cast
    ring_nf
  rw [RoundsTo, same]
  exact ⟨rounds.1, fun half => (rounds.2 half).neg⟩

/-- A size is the fraction of its numerator and its denominator. -/
theorem Binary.amount_eq (size : Binary) : size.amount = size.numerator / size.denominator := by
  obtain ⟨significand, exponent, narrow⟩ := size
  simp only [amount, numerator, denominator, powerOfTwo, Nat.pow_eq]
  -- The exponent scales the numerator if it is not negative, and the denominator otherwise.
  obtain ⟨count, rfl | rfl⟩ := exponent.eq_nat_or_neg
  · simp
  · simp [div_eq_mul_inv]

/-- The whole number of units of the last place that a double is rounded to. -/
def unitsOf (places : Nat) (x : Float) : ℤ :=
  if isNegative x then -((Binary.ofFloat x).units places : ℤ) else (Binary.ofFloat x).units places

/-- The units of a double are its exact value in units of the last place, rounded. -/
theorem roundsTo_unitsOf (places : Nat) (x : Float) :
    RoundsTo (exact x * 10 ^ places) (unitsOf places x) := by
  -- The size is rounded without its sign, and halves go to even on either side of zero alike.
  have size : RoundsTo ((Binary.ofFloat x).amount * 10 ^ places)
      ((Binary.ofFloat x).units places : ℤ) := by
    have rounds := roundsTo_roundHalfEven ((Binary.ofFloat x).numerator * powerOfTen places)
      (Binary.ofFloat x).denominator_pos
    have value : (((Binary.ofFloat x).numerator * powerOfTen places : ℕ) : ℚ) /
        (Binary.ofFloat x).denominator = (Binary.ofFloat x).amount * 10 ^ places := by
      rw [Binary.amount_eq, powerOfTen, Nat.pow_eq]
      push_cast
      ring
    rwa [value] at rounds
  unfold exact unitsOf
  split
  · -- The sign is put in front after rounding.
    rw [neg_mul]
    exact size.neg
  · -- There is no sign.
    exact size

/-! The form that is shown. -/

/-- A point may separate the digits of a number. -/
theorem separates_point : Separates '.' :=
  ⟨by decide, by decide, by decide⟩

/-- Whether a double is a number that is neither of the infinities. -/
structure IsFinite (x : Float) : Prop where
  /-- It is a number. -/
  number : x.isNaN = false
  /-- It is no infinity. -/
  bounded : x.isInf = false

/-- What is shown of a number of units of the last place. -/
def shown (places units : Nat) (negative : Bool) : Written where
  plus := false
  minus := negative && units != 0
  before := whole (units / 10 ^ places)
  behind :=
    if fractionDigits places units = [] then none else some (fractionDigits places units)
  power := none
  run := by
    -- There is always a digit in front of the point.
    refine ⟨List.append_ne_nil_of_left_ne_nil (digits_whole _).1 _, fun c member => ?_⟩
    rcases List.mem_append.mp member with front | back
    · exact isDigit_of_mem_whole front
    · split at back
      · cases back
      · exact isDigit_of_mem_fractionDigits back

/-- What is shown behind the point are the digits that are left. -/
theorem fraction_shown (places units : Nat) (negative : Bool) :
    (shown places units negative).fraction = fractionDigits places units := by
  simp only [Written.fraction, shown]
  -- Without a point there are no digits behind it.
  split
  case isTrue none => rw [none, Option.getD_none]
  case isFalse => rfl

/-- Without its sign, a number is shown as the whole part and the fraction with its point. -/
theorem unsigned_shown (places units : Nat) (negative : Bool) :
    (shown places units negative).unsigned '.' = whole (units / 10 ^ places) ++
      if fractionDigits places units = [] then [] else '.' :: fractionDigits places units := by
  simp only [Written.unsigned, Written.body, shown, Option.elim_none, List.append_nil]
  -- There is a point exactly if digits are left.
  split <;> rfl

/-- What is shown denotes the units of the last place. -/
theorem size_shown (places units : Nat) (negative : Bool) :
    (shown places units negative).size = units / 10 ^ places := by
  -- The units are as many whole ones and a rest below one.
  have parts : (units : ℚ) =
      (units / 10 ^ places : ℕ) * 10 ^ places + (units % 10 ^ places : ℕ) := by
    exact_mod_cast (Nat.div_add_mod' units (10 ^ places)).symm
  have whole : value (shown places units negative).before = units / 10 ^ places := value_whole _
  have exponent : (shown places units negative).exponent = 0 := rfl
  rw [Written.size, fraction_shown, value_fractionDigits, whole, exponent, zpow_zero, mul_one]
  nth_rewrite 1 [parts]
  field_simp

/-- A double shows as its sign and its units of the last place. -/
theorem toList_placesText (places : Nat) {x : Float} (finite : IsFinite x) :
    (placesText places x).toList =
      (shown places ((Binary.ofFloat x).units places) (isNegative x)).chars '.' := by
  simp only [placesText, finite.number, finite.bounded, Bool.false_eq_true, if_false,
    unitsText, fractionText_eq, powerOfTen, Nat.pow_eq]
  generalize (Binary.ofFloat x).units places = units
  have plus : (shown places units (isNegative x)).plus = false := rfl
  have minus : (shown places units (isNegative x)).minus = (isNegative x && units != 0) := rfl
  -- The sign is shown exactly where it is put in front of the text.
  rw [Written.chars, unsigned_shown, plus, minus, String.toList_ofList]
  split <;> rfl

/-- Whether a number is written without anything superfluous, with so many places at most. -/
structure Canonical (places : Nat) (written : Written) : Prop where
  /-- There is neither a plus sign nor a power of ten. -/
  plain : written.plus = false ∧ written.power = none
  /-- There is a digit in front of the point, and it is only a zero if it is alone. -/
  whole : written.before ≠ [] ∧ (written.before.head? = some '0' → written.before = ['0'])
  /-- Behind a point there are digits, so many at most, and the last of them is no zero. -/
  fraction : ∀ digits, written.behind = some digits →
    digits ≠ [] ∧ digits.length ≤ places ∧ digits.getLast? ≠ some '0'
  /-- Zero has no sign. -/
  sign : written.minus = true → written.amount ≠ 0

/-- What is shown is written without anything superfluous. -/
theorem canonical_shown (places units : Nat) (negative : Bool) :
    Canonical places (shown places units negative) := by
  refine ⟨⟨rfl, rfl⟩, ⟨(digits_whole _).1, fun zero => ?_⟩, fun digits same => ?_, fun minus => ?_⟩
  · -- Only zero itself starts with a zero.
    by_contra other
    refine head_whole (Nat.pos_of_ne_zero fun none => other ?_) zero
    simp only [shown, none]
    rfl
  · -- Behind the point stand the digits that are left, the last of which is no zero.
    simp only [shown] at same
    split at same
    · cases same
    case isFalse some =>
      cases same
      exact ⟨some, length_fractionDigits places units, getLast?_fractionDigits places units⟩
  · -- A sign is only shown in front of units that are not zero.
    have some : units ≠ 0 := by
      simp only [shown, Bool.and_eq_true, bne_iff_ne] at minus
      exact minus.2
    have some : (units : ℚ) ≠ 0 := by exact_mod_cast some
    rw [Written.amount, if_pos minus, size_shown]
    exact neg_ne_zero.mpr (div_ne_zero some (by positivity))

/-- What is shown of a double denotes its units of the last place, with its sign. -/
theorem amount_shown (places : Nat) (x : Float) :
    (shown places ((Binary.ofFloat x).units places) (isNegative x)).amount =
      unitsOf places x / 10 ^ places := by
  -- Without units the sign is not shown, and it would change nothing.
  rw [Written.amount, size_shown, unitsOf]
  generalize (Binary.ofFloat x).units places = units
  have minus : (shown places units (isNegative x)).minus = (isNegative x && units != 0) := rfl
  rw [minus]
  cases isNegative x with
  | false => simp
  | true =>
    -- A zero that would have a sign is the same number without it.
    rcases Nat.eq_zero_or_pos units with rfl | pos
    · simp
    · simp [pos.ne', neg_div]

/-! The library shows a double with exactly so many places; zeros at the end are then taken away. -/

/-- A double with exactly so many places, as the library renders it. -/
def fixedChars (places : Nat) (x : Float) : List Char :=
  let units := (Binary.ofFloat x).units places
  let size := whole (units / 10 ^ places) ++
    if places = 0 then [] else '.' :: lastDigits places units []
  if isNegative x then '-' :: size else size

/-- A text without the zeros at its end and then without the point at its end, if it has a point;
zero has no sign. -/
def trimmed (chars : List Char) : List Char :=
  let cut :=
    if '.' ∈ chars then
      ((chars.reverse.dropWhile (· == '0')).dropWhile (· == '.')).reverse
    else chars
  if cut = ['-', '0'] then ['0'] else cut

/-- Without units, no digits are left behind the point. -/
theorem fractionDigits_zero (places : Nat) : fractionDigits places 0 = [] := by
  -- All digits that are written are zeros.
  have zeros (width : Nat) (tail : List Char) :
      lastDigits width 0 tail = List.replicate width '0' ++ tail := by
    induction width generalizing tail with
    | zero => rfl
    | succ width ih =>
      rw [lastDigits, Nat.zero_div, ih, List.replicate_succ', List.append_assoc]
      rfl
  rw [fractionDigits, zeros, List.append_nil, List.reverse_replicate,
    List.dropWhile_replicate]
  rfl

/-- Where another character comes first, nothing is dropped. -/
theorem dropWhile_of_ne {stop : Char} {chars : List Char} (other : ∀ c ∈ chars.head?, c ≠ stop) :
    chars.dropWhile (· == stop) = chars := by
  -- The first character stops the dropping at once.
  cases chars with
  | nil => rfl
  | cons c rest => simpa using other c rfl

/-- Zeros at the end of a fraction are taken away, and a point that they leave behind. -/
theorem cut_fraction {front : List Char} (digits : Digits front) (sign : List Char)
    (places units : Nat) :
    (((sign ++ front ++ '.' :: lastDigits places units []).reverse.dropWhile (· == '0')).dropWhile
      (· == '.')).reverse =
      sign ++ (front ++
        if fractionDigits places units = [] then [] else '.' :: fractionDigits places units) := by
  -- What is cut off are the zeros that have been left out, and then perhaps the point.
  obtain ⟨zeros, parts⟩ := exists_zeros places units
  have last := getLast?_fractionDigits places units
  have run : ∀ c ∈ fractionDigits places units, isDigit c = true :=
    fun c => isDigit_of_mem_fractionDigits
  generalize fractionDigits places units = fraction at *
  have passed : ∀ c ∈ List.replicate zeros '0', (c == '0') = true := by
    intro c member
    simp [List.eq_of_mem_replicate member]
  have turned : (sign ++ front ++ '.' :: (fraction ++ List.replicate zeros '0')).reverse =
      List.replicate zeros '0' ++ (fraction.reverse ++ '.' :: (sign ++ front).reverse) := by
    simp
  rw [parts, turned, List.dropWhile_append_of_pos passed]
  split
  case isTrue none =>
    -- The point is the next to go, and a digit stands in front of it.
    subst none
    have next : ∀ c ∈ (sign ++ front).reverse.head?, c ≠ '.' := by
      intro c first
      rw [List.head?_reverse, List.getLast?_append_of_ne_nil _ digits.1] at first
      exact ne_of_isDigit (digits.2 c (List.mem_of_getLast? first)) rfl
    have stays : ('.' :: (sign ++ front).reverse).dropWhile (· == '0') =
        '.' :: (sign ++ front).reverse := dropWhile_of_ne (by simp)
    have point : ('.' :: (sign ++ front).reverse).dropWhile (· == '.') = (sign ++ front).reverse :=
      dropWhile_of_ne next
    rw [List.reverse_nil, List.nil_append, stays, point, List.reverse_reverse, List.append_nil]
  case isFalse some =>
    -- A digit other than zero is the next one, and stops the zeros and the point alike.
    have next : ∀ c ∈ (fraction.reverse ++ '.' :: (sign ++ front).reverse).head?,
        c ≠ '0' ∧ c ≠ '.' := by
      intro c first
      rw [List.head?_append_of_ne_nil _ (by simpa using some), List.head?_reverse] at first
      refine ⟨?_, ne_of_isDigit (run c (List.mem_of_getLast? first)) rfl⟩
      rintro rfl
      exact last first
    rw [dropWhile_of_ne fun c first => (next c first).1,
      dropWhile_of_ne fun c first => (next c first).2]
    simp

/-- What is rendered is cut to what is shown, with the sign of the double. -/
theorem cut_fixedChars (places : Nat) (x : Float) :
    (if '.' ∈ fixedChars places x then
        (((fixedChars places x).reverse.dropWhile (· == '0')).dropWhile (· == '.')).reverse
      else fixedChars places x) =
      (if isNegative x then ['-'] else []) ++
        (shown places ((Binary.ofFloat x).units places) (isNegative x)).unsigned '.' := by
  rw [unsigned_shown, fixedChars]
  generalize (Binary.ofFloat x).units places = units
  -- The sign, if any, is put in front and holds no point.
  have parts (size : List Char) : (if isNegative x = true then '-' :: size else size) =
      (if isNegative x then ['-'] else []) ++ size := by split <;> rfl
  have pointless : '.' ∉ (if isNegative x then ['-'] else []) := by split <;> simp
  generalize (if isNegative x then ['-'] else []) = sign at *
  rw [parts]
  by_cases none : places = 0
  · -- Without places there is no point, and no zero is taken away.
    subst none
    have whole : '.' ∉ whole (units / 10 ^ 0) := fun member =>
      absurd (isDigit_of_mem_whole member) (by decide)
    have fraction : fractionDigits 0 units = [] := rfl
    rw [if_pos rfl, List.append_nil, if_neg (List.not_mem_append pointless whole),
      if_pos fraction, List.append_nil]
  · -- With places there is a point, and all that follows is cut to what is left.
    rw [if_neg none, if_pos (by simp), ← List.append_assoc]
    exact cut_fraction (digits_whole _) sign places units

/-- What is shown is the sign and zero exactly if there are no units of the last place. -/
theorem shown_eq_zero_iff (places units : Nat) (negative : Bool) :
    (shown places units negative).unsigned '.' = ['0'] ↔ units = 0 := by
  constructor
  · intro zero
    rw [unsigned_shown] at zero
    -- The only character stands in front of the point, so that both parts of the number are zero.
    obtain ⟨none, -⟩ | ⟨whole, fraction⟩ := List.append_eq_singleton_iff.mp zero
    · exact absurd none (digits_whole _).1
    · have quotient : units / 10 ^ places = 0 := by
        rw [← value_whole (units / 10 ^ places), whole]
        rfl
      have none : fractionDigits places units = [] := by
        split at fraction
        case isTrue none => exact none
        case isFalse => cases fraction
      have rest := value_fractionDigits places units
      rw [none, eq_div_iff (by positivity)] at rest
      have rest : units % 10 ^ places = 0 := by
        have none : (units % 10 ^ places : ℕ) = (0 : ℚ) := by
          simpa [value, valueFrom] using rest.symm
        exact_mod_cast none
      rw [← Nat.div_add_mod units (10 ^ places), quotient, rest, Nat.mul_zero]
  · -- Zero is shown as the one digit, with no fraction.
    rintro rfl
    rw [unsigned_shown, if_pos (fractionDigits_zero places), Nat.zero_div]
    rfl

/-- What is shown is what the library renders, trimmed. -/
theorem toList_placesText_eq_trimmed (places : Nat) {x : Float} (finite : IsFinite x) :
    (placesText places x).toList = trimmed (fixedChars places x) := by
  -- Both put the sign in front of the same text, unless it is that of zero.
  rw [toList_placesText places finite, trimmed, cut_fixedChars, Written.chars]
  have zero := shown_eq_zero_iff places ((Binary.ofFloat x).units places) (isNegative x)
  have minus : (shown places ((Binary.ofFloat x).units places) (isNegative x)).minus =
    (isNegative x && (Binary.ofFloat x).units places != 0) := rfl
  have plus : (shown places ((Binary.ofFloat x).units places) (isNegative x)).plus = false := rfl
  have first : ∀ c ∈ ((shown places ((Binary.ofFloat x).units places)
      (isNegative x)).unsigned '.').head?, c ≠ '-' := by
    intro c here
    rcases Written.mem_head_body here with digit | rfl
    · exact ne_of_isDigit digit rfl
    · decide
  rw [plus, minus]
  generalize (shown places _ _).unsigned '.' = body at *
  cases isNegative x with
  | false =>
    -- Without a sign in front it cannot be a zero with one.
    have other : body ≠ ['-', '0'] := by
      rintro rfl
      exact first '-' rfl rfl
    simp [other]
  | true =>
    -- A sign is dropped in front of zero, which is where there are no units.
    by_cases none : (Binary.ofFloat x).units places = 0
    · simp [zero.mpr none, none]
    · have other : body ≠ ['0'] := mt zero.mp none
      simp [other, none]

/-- Doubles that are rounded to the same units of the last place show the same. -/
theorem shown_congr {places units units' : Nat} {negative negative' : Bool}
    (same : (if negative then -(units : ℤ) else units) =
      if negative' then -(units' : ℤ) else units') :
    shown places units negative = shown places units' negative' := by
  -- The sizes are the same, and the signs are too unless both sizes are zero.
  obtain rfl : units = units' := by split at same <;> split at same <;> omega
  have minus : (negative && units != 0) = (negative' && units != 0) := by
    rcases Nat.eq_zero_or_pos units with rfl | pos
    · simp
    · cases negative <;> cases negative' <;> simp_all
  simp only [shown, minus]

/-- Two doubles show the same exactly if their exact values are rounded to the same number. -/
theorem placesText_eq_iff (places : Nat) {x y : Float} (finite : IsFinite x)
    (finite' : IsFinite y) :
    placesText places x = placesText places y ↔
      ∃ rounded, RoundsToPlaces places (exact x) rounded ∧
        RoundsToPlaces places (exact y) rounded := by
  have rounds (x : Float) : RoundsToPlaces places (exact x) (unitsOf places x / 10 ^ places) :=
    ⟨unitsOf places x, rfl, roundsTo_unitsOf places x⟩
  constructor
  · -- Texts that are the same denote the same number, which both are rounded to.
    intro same
    refine ⟨_, rounds x, ?_⟩
    have chars := congrArg String.toList same
    rw [toList_placesText places finite, toList_placesText places finite'] at chars
    have amount := Written.amount_eq_of_chars_eq separates_point chars
    rw [amount_shown, amount_shown] at amount
    rw [amount]
    exact rounds y
  · -- There is one number to round to, so that the units are the same.
    rintro ⟨rounded, here, there⟩
    have same := (here.unique (rounds x)).symm.trans (there.unique (rounds y))
    have units : unitsOf places x = unitsOf places y := by
      have cleared := (div_left_inj' (by positivity)).mp same
      exact_mod_cast cleared
    rw [← String.toList_inj, toList_placesText places finite, toList_placesText places finite',
      shown_congr units]

/-- Trimming leaves no zero with a sign. -/
theorem trimmed_ne_negativeZero (chars : List Char) : trimmed chars ≠ ['-', '0'] := by
  -- The last step of trimming replaces that very text.
  unfold trimmed
  extract_lets cut
  split
  case isTrue => decide
  case isFalse other => exact other

/-- No double is shown as a zero with a sign. -/
theorem placesText_ne_negativeZero (places : Nat) {x : Float} (finite : IsFinite x) :
    placesText places x ≠ "-0" := by
  -- What is shown has been trimmed.
  intro same
  refine trimmed_ne_negativeZero (fixedChars places x) ?_
  rw [← toList_placesText_eq_trimmed places finite, same]
  rfl

/-- A finite double is shown as the library renders it, trimmed. What is shown has nothing
superfluous in it and is never zero with a sign; it denotes the exact value of the double, rounded
to the places with halves going to even. Two doubles show the same exactly if they are rounded to
the same number. -/
theorem placesText_rounds (places : Nat) {x : Float} (finite : IsFinite x) :
    (placesText places x).toList = trimmed (fixedChars places x) ∧
    placesText places x ≠ "-0" ∧
    (∃ written : Written, (placesText places x).toList = written.chars '.' ∧
      Canonical places written ∧ RoundsToPlaces places (exact x) written.amount) ∧
    ∀ y, IsFinite y → (placesText places x = placesText places y ↔
      ∃ rounded, RoundsToPlaces places (exact x) rounded ∧
        RoundsToPlaces places (exact y) rounded) := by
  -- Everything but the rounding has its own lemma; what is shown denotes the units of the last
  -- place.
  refine ⟨toList_placesText_eq_trimmed places finite, placesText_ne_negativeZero places finite,
    ⟨shown places ((Binary.ofFloat x).units places) (isNegative x), toList_placesText places finite,
      canonical_shown .., ?_⟩, fun y finite' => placesText_eq_iff places finite finite'⟩
  rw [amount_shown]
  exact ⟨unitsOf places x, rfl, roundsTo_unitsOf places x⟩

/-- A half goes to the even neighbour, and loses its sign where that is zero. -/
theorem placesText_rounds_halves :
    IsFinite 2.5 ∧ placesText 0 2.5 = "2" ∧ RoundsToPlaces 0 (exact 2.5) 2 ∧
      IsFinite (-0.5) ∧ placesText 0 (-0.5) = "0" ∧ RoundsToPlaces 0 (exact (-0.5)) 0 := by
  have positive : IsFinite 2.5 := ⟨by decide, by decide⟩
  have negative : IsFinite (-0.5) := ⟨by decide, by decide⟩
  have two : placesText 0 2.5 = "2" := by decide
  have zero : placesText 0 (-0.5) = "0" := by decide
  obtain ⟨-, -, ⟨written, chars, -, rounds⟩, -⟩ := placesText_rounds 0 positive
  obtain ⟨-, -, ⟨written', chars', -, rounds'⟩, -⟩ := placesText_rounds 0 negative
  -- The texts are those of two and of zero, and there is no second way to read them.
  have same : written.chars '.' = (shown 0 2 false).chars '.' := by
    rw [← chars, two]
    rfl
  have same' : written'.chars '.' = (shown 0 0 false).chars '.' := by
    rw [← chars', zero]
    rfl
  have amount : written.amount = 2 := by
    rw [Written.amount_eq_of_chars_eq separates_point same, Written.amount, size_shown]
    simp [shown]
  have amount' : written'.amount = 0 := by
    rw [Written.amount_eq_of_chars_eq separates_point same', Written.amount, size_shown]
    simp
  rw [amount] at rounds
  rw [amount'] at rounds'
  exact ⟨positive, two, rounds, negative, zero, rounds'⟩

end Scriptlet.Decimal

import Scriptlet.Proofs.Decimal.Nearest
import Scriptlet.Proofs.Decimal.Order

/-!
The distance of two doubles, whatever it is rounded to.

Main statements: the distance of two doubles is the same in both directions, down to its bits, a
finite double has no distance from itself, and doubles of one sign that are the same number are
unpacked to the same.
-/

namespace Scriptlet.Decimal

open Float.Model Float.Model.UnpackedFloat

variable {x y : Float} {significand significand' : Nat} {exponent exponent' : Int}
  {negative : Bool}

/-- Without its sign a double keeps its size. -/
theorem IsDouble.abs (double : IsDouble x negative significand exponent) :
    IsDouble x.abs false significand exponent := by
  -- The sign is put in front of what the double is unpacked to, so every kind keeps its size.
  have fits := double.fits.1
  change IsDouble (Float.ofModel (Float.Model.pack x.toModel.unpack.abs)) _ _ _
  cases double.kind with
  | infinity shape =>
    -- An infinity loses its sign and stays one.
    rw [shape]
    exact isDouble_infinity false
  | zero shape small =>
    -- Without a significand only the least exponent fits.
    rw [shape, fits.full.resolve_left (by omega)]
    exact isDouble_zero false
  | finite pos shape small =>
    -- The packed double has the size that it was packed from.
    rw [shape]
    change IsDouble (.ofModel (.pack (.finite (signOf false) significand exponent pos))) _ _ _
    exact isDouble_pack fits (by omega) pos

/-- Without its sign a double is the absolute value of what it was. -/
theorem exact_abs (number : x.isNaN = false) : exact x.abs = |exact x| := by
  -- Both are read off the one size.
  have double := isDouble_self number
  rw [double.abs_exact, double.abs.exact_eq, if_neg Bool.false_ne_true]

/-! What is made of NaN is NaN. -/

/-- What is NaN is unpacked to no number. -/
theorem unpack_of_isNaN (nan : x.isNaN = true) : x.toModel.unpack = .notANumber := by
  change x.toModel.unpack.isNaN = true at nan
  cases shape : x.toModel.unpack with
  | notANumber => rfl
  -- The other kinds are numbers.
  | infinity | zero | finite =>
    rw [shape] at nan
    cases nan

/-- Without a sign, NaN is still NaN. -/
theorem isNaN_abs (nan : x.isNaN = true) : x.abs.isNaN = true := by
  change (Float.ofModel (Float.Model.pack x.toModel.unpack.abs)).isNaN = true
  rw [unpack_of_isNaN nan]
  rfl

/-- A difference in which NaN takes part is NaN. -/
theorem isNaN_sub (nan : x.isNaN = true ∨ y.isNaN = true) : (x - y).isNaN = true := by
  -- It does not matter on which side it stands.
  have unpacked : UnpackedFloat.sub .binary64 x.toModel.unpack y.toModel.unpack = .notANumber := by
    rcases nan with nan | nan
    · rw [unpack_of_isNaN nan]
      rfl
    · rw [unpack_of_isNaN nan]
      cases x.toModel.unpack <;> rfl
  change (Float.ofModel (Float.Model.pack (UnpackedFloat.sub .binary64 _ _))).isNaN = true
  rw [unpacked]
  rfl

/-! The sign of what is rounded and packed is carried along and changes nothing else. -/

/-- The distance is read from the fields of a double, next to its sign. -/
theorem abs_eq_of_fields (field : exponentField x = exponentField y)
    (fraction : fractionField x = fractionField y) : x.abs = y.abs := by
  -- The two are unpacked from the same fields, but perhaps under different signs.
  have same : x.toModel.unpack.abs = y.toModel.unpack.abs := by
    simp only [unpack_eq, field, fraction]
    split_ifs <;> rfl
  change Float.ofModel (Float.Model.pack _) = Float.ofModel (Float.Model.pack _)
  rw [same]

/-- A finite number is packed to the same fields under either sign. -/
theorem exists_components (exponent : Int) (pos : 0 < significand) :
    ∃ field fraction, ∀ sign : Sign,
      UnpackedFloat.pack .binary64 (.finite sign significand exponent pos) =
        packComponents .binary64 sign field fraction := by
  unfold UnpackedFloat.pack
  dsimp only
  -- Whether it is too large, too small or fits, the sign is only put in front.
  split_ifs <;> exact ⟨_, _, fun _ => rfl⟩

/-- The bits of a packed number are those that it has been packed into. -/
theorem bitsOf_pack (u : UnpackedFloat) :
    bitsOf (.ofModel (.pack u)) = UnpackedFloat.pack .binary64 u :=
  rfl

/-- Two finite numbers that differ in their signs at most are packed to doubles of one size. -/
theorem abs_pack_finite (sign sign' : Sign) (pos : 0 < significand) :
    (Float.ofModel (.pack (.finite sign significand exponent pos))).abs =
      (Float.ofModel (.pack (.finite sign' significand exponent pos))).abs := by
  obtain ⟨field, fraction, packed⟩ := exists_components exponent pos
  apply abs_eq_of_fields
  · -- The exponents are packed alike.
    rw [exponentField_eq, exponentField_eq, bitsOf_pack, bitsOf_pack, packed, packed,
      unpackExponent_packComponents, unpackExponent_packComponents]
  · -- So are the fractions.
    rw [fractionField_eq, fractionField_eq, bitsOf_pack, bitsOf_pack, packed, packed,
      unpackMantissa_packComponents, unpackMantissa_packComponents]

/-- Numbers of one size are packed to doubles of one size. -/
theorem abs_pack {u v : UnpackedFloat} (same : u.abs = v.abs) :
    (Float.ofModel (Float.Model.pack u)).abs = (Float.ofModel (Float.Model.pack v)).abs := by
  rcases u with s | _ | s | ⟨s, m, e, pos⟩ <;> rcases v with t | _ | t | ⟨t, m', e', pos'⟩ <;>
    simp only [UnpackedFloat.abs, reduceCtorEq, finite.injEq, true_and] at same
  -- The two are of one kind, and of one size if they have one.
  case infinity.infinity => cases s <;> cases t <;> rfl
  case notANumber.notANumber => rfl
  case zero.zero => cases s <;> cases t <;> rfl
  case finite.finite =>
    obtain ⟨rfl, rfl⟩ := same
    exact abs_pack_finite s t pos

/-- Rounding does not look at the sign. -/
theorem abs_round (sign sign' : Sign) (mantissa : Nat) (exponent : Int) :
    (UnpackedFloat.round .binary64 sign mantissa exponent).abs =
      (UnpackedFloat.round .binary64 sign' mantissa exponent).abs := by
  unfold UnpackedFloat.round roundWithAccuracy
  dsimp only
  -- Whether bits are cut off or not, the sign is only handed on.
  split_ifs <;> rfl

/-- A whole number and its negative are rounded to the same size. -/
theorem abs_normalize_neg (mantissa : Int) (exponent : Int) (sign : Sign) :
    (UnpackedFloat.normalize .binary64 (-mantissa) exponent sign).abs =
      (UnpackedFloat.normalize .binary64 mantissa exponent sign).abs := by
  unfold UnpackedFloat.normalize
  -- On either side of zero the same size is rounded, under one sign or the other.
  rcases lt_trichotomy mantissa 0 with less | rfl | more
  · rw [compare_lt_iff_lt.mpr less, compare_gt_iff_gt.mpr (by omega)]
    exact abs_round ..
  · rfl
  · rw [compare_gt_iff_gt.mpr more, compare_lt_iff_lt.mpr (by omega), neg_neg]
    exact abs_round ..

/-- Unpacked numbers have the same difference in both directions, but for its sign. -/
theorem abs_sub_unpacked (u v : UnpackedFloat) :
    (UnpackedFloat.sub .binary64 u v).abs = (UnpackedFloat.sub .binary64 v u).abs := by
  rcases u with s | _ | s | ⟨s, m, e, pos⟩ <;> rcases v with t | _ | t | ⟨t, m', e', pos'⟩
  case finite.finite =>
    -- Both are put on one grid first, on which the difference is exact.
    simp only [UnpackedFloat.sub]
    rw [← neg_sub, abs_normalize_neg, min_comm]
  case infinity.infinity | zero.zero => cases s <;> cases t <;> rfl
  all_goals rfl

/-- Two doubles are as far from each other in one direction as in the other. -/
theorem abs_sub_comm (x y : Float) : (x - y).abs = (y - x).abs :=
  abs_pack (abs_sub_unpacked x.toModel.unpack y.toModel.unpack)

/-! A finite double is taken from itself without a rest, and an infinity is not. -/

/-- A double is finite if it is a number, and smaller than what comes next to the largest doubles.
-/
theorem isFinite_iff : x.isFinite = true ↔ x.isNaN = false ∧ |exact x| < 2 ^ 1024 := by
  change x.toModel.unpack.isFinite = true ↔ _
  -- NaN is not finite; all other doubles have a size that can be compared.
  by_cases nan : x.isNaN = true
  · rw [unpack_of_isNaN nan, nan]
    simp [UnpackedFloat.isFinite]
  · rw [Bool.not_eq_true] at nan
    have double := isDouble_self nan
    have top : (2 ^ 1024 : ℚ) = (2 ^ 52 : ℕ) * 2 ^ (972 : Int) := by
      rw [zpow_ofNat, Nat.cast_pow, Nat.cast_ofNat, ← pow_add]
    -- The size of an infinity is the least one that is too large, and all others are below it.
    have most : Fits (2 ^ 52) 972 := ⟨by decide, .inl le_rfl, by decide⟩
    rw [double.abs_exact, top]
    generalize (Binary.ofFloat x).significand = significand at *
    generalize (Binary.ofFloat x).exponent = exponent at *
    have fits := double.fits.1
    cases double.kind with
    | infinity shape =>
      simp only [shape, UnpackedFloat.isFinite, lt_irrefl, and_false, Bool.false_eq_true]
    | zero shape small | finite pos shape small =>
      simp only [shape, UnpackedFloat.isFinite, nan, size_lt_size fits most small, true_and]

/-- A finite double taken from itself is the positive zero. -/
theorem sub_self_of_isFinite (finite : x.isFinite = true) :
    IsDouble (x - x) false 0 (-1074) := by
  have difference : UnpackedFloat.sub .binary64 x.toModel.unpack x.toModel.unpack =
      .zero (signOf false) := by
    change x.toModel.unpack.isFinite = true at finite
    -- A zero taken from itself, with whatever sign, is the positive one.
    cases shape : x.toModel.unpack with
    | notANumber | infinity =>
      rw [shape] at finite
      cases finite
    | zero sign => cases sign <;> rfl
    | finite sign mantissa exponent pos =>
      simp only [UnpackedFloat.sub, Int.sub_self]
      rfl
  change IsDouble (.ofModel (.pack (UnpackedFloat.sub .binary64 _ _))) _ _ _
  rw [difference]
  exact isDouble_zero false

/-- A double that is not finite leaves no number when it is taken from itself. -/
theorem isNaN_sub_self (infinite : x.isFinite = false) : (x - x).isNaN = true := by
  have difference : UnpackedFloat.sub .binary64 x.toModel.unpack x.toModel.unpack =
      .notANumber := by
    change x.toModel.unpack.isFinite = false at infinite
    -- Infinities of one sign have no difference that would be a number.
    cases shape : x.toModel.unpack with
    | notANumber => rfl
    | infinity sign => cases sign <;> rfl
    | zero | finite =>
      rw [shape] at infinite
      cases infinite
  change (Float.ofModel (.pack (UnpackedFloat.sub .binary64 _ _))).isNaN = true
  rw [difference]
  rfl

/-! Numbers without a sign. -/

/-- Whether a double is a number without a sign. -/
structure Unsigned (x : Float) : Prop where
  number : x.isNaN = false
  bare : isNegative x = false

/-- Without its sign, a number is a number without a sign. -/
theorem unsigned_abs (number : x.isNaN = false) : Unsigned x.abs :=
  have double := (isDouble_self number).abs
  ⟨double.number, double.sign⟩

/-- Such a number is the double of its size. -/
theorem Unsigned.double (unsigned : Unsigned x) :
    IsDouble x false (Binary.ofFloat x).significand (Binary.ofFloat x).exponent :=
  ⟨unsigned.number, unsigned.bare, rfl, rfl⟩

/-- What is nearest to a size has no sign. -/
theorem NearestSize.unsigned {size : ℚ} (near : NearestSize x size) : Unsigned x :=
  ⟨near.number, near.bare⟩

/-- Numbers without a sign are told apart by what they are exactly. -/
theorem Unsigned.unpack_eq (unsigned : Unsigned x) (unsigned' : Unsigned y)
    (same : exact x = exact y) : x.toModel.unpack = y.toModel.unpack := by
  have double := unsigned.double
  have double' := unsigned'.double
  -- Of numbers without a sign, the exact values are their sizes.
  rw [double.exact_eq, double'.exact_eq, if_neg Bool.false_ne_true, if_neg Bool.false_ne_true]
    at same
  have sizes := compare_size double.fits.1 double'.fits.1
  rw [compare_eq_iff_eq.mpr same, Ordering.then_eq_eq, compare_eq_iff_eq, compare_eq_iff_eq]
    at sizes
  rw [← sizes.1, ← sizes.2] at double'
  generalize (Binary.ofFloat x).significand = significand at *
  generalize (Binary.ofFloat x).exponent = exponent at *
  -- Of one sign and one size there is only one kind.
  rcases double.kind with ⟨shape⟩ | ⟨shape, small⟩ | ⟨pos, shape, small⟩ <;>
    rcases double'.kind with ⟨shape'⟩ | ⟨shape', small'⟩ | ⟨pos', shape', small'⟩
  case infinity.infinity | zero.zero | finite.finite => rw [shape, shape']
  all_goals omega

/-- A product is made of what its factors are unpacked to. -/
theorem mul_congr_right {x y : Float} (z : Float) (same : x.toModel.unpack = y.toModel.unpack) :
    z * x = z * y := by
  change Float.ofModel (.pack (UnpackedFloat.mul .binary64 _ _)) =
    .ofModel (.pack (UnpackedFloat.mul .binary64 _ _))
  rw [same]

/-- The positive zero has no significand, and the least exponent. -/
theorem isDouble_positiveZero : IsDouble 0.0 false 0 (-1074) :=
  ⟨rfl, rfl, rfl, rfl⟩

/-- The positive zero is exactly zero. -/
theorem exact_positiveZero : exact 0.0 = 0 := by
  simp [isDouble_positiveZero.exact_eq]

/-- What is at least zero is a number that is so exactly. -/
theorem zero_le_iff : (0.0 : Float) ≤ x ↔ x.isNaN = false ∧ 0 ≤ exact x := by
  -- NaN is not compared with anything; numbers are compared by their exact values.
  by_cases nan : x.isNaN = true
  · simp only [not_le_of_isNaN (.inr nan), nan, Bool.true_eq_false, false_and]
  · rw [Bool.not_eq_true] at nan
    rw [le_iff_exact_le isDouble_positiveZero.number nan, exact_positiveZero, and_iff_right nan]

/-- A number without a sign is at least zero. -/
theorem Unsigned.zero_le (unsigned : Unsigned x) : (0.0 : Float) ≤ x := by
  -- Its exact value is a product of two factors that are not negative.
  rw [zero_le_iff, unsigned.double.exact_eq, if_neg Bool.false_ne_true]
  exact ⟨unsigned.number, by positivity⟩

/-- What is exactly larger than zero has no sign. -/
theorem isNegative_of_pos (pos : 0 < exact x) : isNegative x = false := by
  have size : 0 ≤ (Binary.ofFloat x).amount := by
    unfold Binary.amount
    positivity
  -- With a sign it would be the negative of a size.
  by_contra negative
  rw [Bool.not_eq_false] at negative
  rw [exact, if_pos negative] at pos
  linarith

/-- What is finite and at least one has no sign and fills its significand. -/
theorem exists_finite_of_one_le (finite : x.isFinite = true) (large : 1 ≤ exact x) :
    ∃ significand exponent pos, x.toModel.unpack = .finite .positive significand exponent pos ∧
      2 ^ 52 ≤ significand := by
  -- Being finite and positive, it is the double of its size without a sign.
  have double := isDouble_self (isFinite_iff.mp finite).1
  have bare := isNegative_of_pos (x := x) (by linarith)
  have size := double.exact_eq
  rw [bare] at double size
  rw [if_neg Bool.false_ne_true] at size
  have fits := double.fits.1
  change x.toModel.unpack.isFinite = true at finite
  generalize (Binary.ofFloat x).significand = significand at *
  generalize (Binary.ofFloat x).exponent = exponent at *
  cases double.kind with
  -- An infinity is not finite.
  | infinity shape =>
    rw [shape] at finite
    cases finite
  | zero shape small =>
    -- Zero is less than one.
    rw [size] at large
    norm_num at large
  | finite pos shape small =>
    refine ⟨_, _, pos, shape, fits.full.resolve_right ?_⟩
    -- With the least exponent it would be far below one.
    rintro rfl
    have short : (significand : ℚ) < 2 ^ 53 := by exact_mod_cast fits.below
    have tiny : (significand * 2 ^ (-1074 : Int) : ℚ) < 1 := by
      calc (significand * 2 ^ (-1074 : Int) : ℚ)
          < 2 ^ 53 * 2 ^ (-1074 : Int) := by gcongr
        _ = 2 ^ (-1021 : Int) := by
          rw [← zpow_ofNat, ← zpow_add₀ (by norm_num)]
          rfl
        _ ≤ 1 := zpow_le_one_of_nonpos₀ (by norm_num) (by norm_num)
    linarith

/-- What is not negative stays so when it is multiplied by a finite number of at least one. -/
theorem zero_le_mul (finite : x.isFinite = true) (low : (0.0 : Float) ≤ x)
    (finite' : y.isFinite = true) (large : 1 ≤ exact y) : (0.0 : Float) ≤ x * y := by
  obtain ⟨number, low⟩ := zero_le_iff.mp low
  obtain ⟨second, scale', pos', shape', full⟩ := exists_finite_of_one_le finite' large
  have double := isDouble_self number
  have size := double.abs_exact
  change x.toModel.unpack.isFinite = true at finite
  change (0.0 : Float) ≤
    .ofModel (.pack (UnpackedFloat.mul .binary64 x.toModel.unpack y.toModel.unpack))
  rw [shape']
  generalize (Binary.ofFloat x).significand = first at *
  generalize (Binary.ofFloat x).exponent = scale at *
  cases double.kind with
  -- An infinity is not finite.
  | infinity shape =>
    rw [shape] at finite
    cases finite
  | zero shape small =>
    -- Zero times a positive number is zero, with the sign that it had.
    have product : UnpackedFloat.mul .binary64 (.zero (signOf (isNegative x)))
        (.finite .positive second scale' pos') = .zero (signOf (isNegative x)) := by
      cases isNegative x <;> rfl
    have zero := isDouble_zero (isNegative x)
    rw [shape, product, zero_le_iff, zero.exact_eq]
    exact ⟨zero.number, by simp⟩
  | finite pos shape small =>
    -- What is larger than zero has no sign, and the product of full significands is full.
    have bare : isNegative x = false := by
      rw [abs_of_nonneg low] at size
      exact isNegative_of_pos (by rw [size]; positivity)
    have full := full.trans (Nat.le_mul_of_pos_left second pos)
    rw [shape, bare]
    exact (nearest_mul pos pos' full).unsigned.zero_le

end Scriptlet.Decimal

import Scriptlet.Decimal.Binary
import Scriptlet.Decimal.Digits

/-! The fewest decimal digits that identify a double, and their layout as text. -/

namespace Scriptlet.Decimal

/-- A decimal number `digits * 10 ^ exponent`. -/
structure Scaled where
  /-- The whole number that is scaled. -/
  digits : Nat
  /-- The power of ten it is scaled by. -/
  exponent : Int
  deriving Repr, DecidableEq

/-- Compare `digits * 10 ^ tens` with `count * 2 ^ twos`, exactly. -/
def compareScaled (digits : Nat) (tens : Int) (count : Nat) (twos : Int) : Ordering :=
  compare (digits * powerOfTen tens.toNat * powerOfTwo (-twos).toNat)
    (count * powerOfTwo twos.toNat * powerOfTen (-tens).toNat)

/-- Whether a decimal number lies among the reals that round to the double. -/
def Binary.readsBack (size : Binary) (candidate : Scaled) : Bool :=
  -- The two ends lie halfway to the neighbours, and belong to the double whose significand is even.
  let low := if size.narrowBelow then 4 * size.significand - 1 else 4 * size.significand - 2
  let high := 4 * size.significand + 2
  let closed := size.significand % 2 == 0
  let fromLow := compareScaled candidate.digits candidate.exponent low (size.exponent - 2)
  let fromHigh := compareScaled candidate.digits candidate.exponent high (size.exponent - 2)
  (fromLow == .gt || (closed && fromLow == .eq)) && (fromHigh == .lt || (closed && fromHigh == .eq))

/-- Whether the exact size lies below `10 ^ power`. -/
def Binary.below (size : Binary) (power : Int) : Bool :=
  compareScaled 1 power size.significand size.exponent == .gt

/-- The least power of ten above the exact size, searched upwards from `power`. -/
def Binary.scaleFrom (size : Binary) : Nat → Int → Int
  | 0, power => power
  | steps + 1, power => if size.below power then power else size.scaleFrom steps (power + 1)

/-- The least power of ten above the exact size. -/
def Binary.scale (size : Binary) : Int :=
  -- A number of `b` bits has about `0.30103 * b` digits; the search starts a little lower.
  let bits := (size.significand.log2 : Int) + size.exponent
  size.scaleFrom 8 (bits * 30103 / 100000 - 2)

/-- The decimal number on the grid of `10 ^ power` that is nearest and reads back, if one does. -/
def Binary.onGrid? (size : Binary) (power : Int) : Option Scaled :=
  let numerator := size.numerator * powerOfTen (-power).toNat
  let denominator := size.denominator * powerOfTen power.toNat
  let lower := numerator / denominator
  let rest := numerator % denominator
  match size.readsBack ⟨lower, power⟩, size.readsBack ⟨lower + 1, power⟩ with
  -- Where both neighbours read back the nearer one is taken, and the upper one at equal distance.
  | true, true => some ⟨if 2 * rest < denominator then lower else lower + 1, power⟩
  | true, false => some ⟨lower, power⟩
  | false, true => some ⟨lower + 1, power⟩
  | false, false => none

/-- A decimal number without the zeros at its end. -/
def Scaled.strip : Nat → Scaled → Scaled
  | 0, number => number
  | steps + 1, number =>
    if number.digits % 10 == 0 then Scaled.strip steps ⟨number.digits / 10, number.exponent + 1⟩
    else number

/-- The fewest digits that read back to the double, nearest to it among those. -/
def Binary.shortest (size : Binary) : Scaled :=
  let scale := size.scale
  -- Seventeen digits identify every double; the exact value stands for the case that cannot be.
  match (List.range 17).findSome? fun count => size.onGrid? (scale - (count + 1 : Nat)) with
  | some found => found.strip 17
  | none =>
    let places := (-size.exponent).toNat
    ⟨size.numerator * powerOfTen places / powerOfTwo places, -(places : Int)⟩

/-- Digits with the point set where their exponent says, and at least one digit on either side. -/
def positional (digits : List Char) (point : Int) : List Char :=
  if point ≤ 0 then
    '0' :: '.' :: (List.replicate (-point).toNat '0' ++ digits)
  else if (digits.length : Int) ≤ point then
    digits ++ List.replicate (point.toNat - digits.length) '0' ++ ['.', '0']
  else
    digits.take point.toNat ++ '.' :: digits.drop point.toNat

/-- Digits with the point behind the first one, and a power of ten. -/
def scientific (digits : List Char) (point : Int) : List Char :=
  let mantissa := match digits with
    | first :: second :: rest => first :: '.' :: second :: rest
    | few => few
  mantissa ++ 'e' :: signed (point - 1)

/-- A positive size in the notation of literals: positional from `10 ^ -4` up to `10 ^ 16`. -/
def Binary.literalText (size : Binary) : List Char :=
  let number := size.shortest
  let digits := whole number.digits
  -- The point stands so many digits behind the first one.
  let point := (digits.length : Int) + number.exponent
  if -4 < point && point ≤ 16 then positional digits point else scientific digits point

/-- A double with the fewest digits that identify it. -/
def shortestText (x : Float) : String :=
  if x.isNaN then "NaN"
  else
    let size :=
      if x.isInf then "inf".toList
      else if (Binary.ofFloat x).significand == 0 then "0.0".toList
      else (Binary.ofFloat x).literalText
    String.ofList (if isNegative x then '-' :: size else size)

end Scriptlet.Decimal

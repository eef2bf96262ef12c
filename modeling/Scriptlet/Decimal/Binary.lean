import Scriptlet.Decimal.Digits

/-! The exact value of a finite double, and its text rounded to a number of decimal places. -/

namespace Scriptlet.Decimal

/-! The exact value of a finite double, and the rounding of exact quotients to whole numbers. -/

/-- A power of two. -/
def powerOfTwo (exponent : Nat) : Nat :=
  Nat.pow 2 exponent

/-- A power of two is never zero. -/
theorem powerOfTwo_pos (exponent : Nat) : 0 < powerOfTwo exponent :=
  Nat.two_pow_pos exponent

/-- The exact size of a finite double: `significand * 2 ^ exponent`. -/
structure Binary where
  /-- The whole number that is scaled. -/
  significand : Nat
  /-- The power of two it is scaled by. -/
  exponent : Int
  /-- Whether the gap to the next smaller double is half of the gap to the next larger one. -/
  narrowBelow : Bool
  deriving Repr, DecidableEq

/-- Whether the sign bit of a double is set. -/
def isNegative (x : Float) : Bool :=
  x.toBits >>> 63 == 1

/-- The exact size of a double; NaN and the infinities have none and are told apart beforehand. -/
def Binary.ofFloat (x : Float) : Binary :=
  let field := ((x.toBits >>> 52) &&& 0x7FF).toNat
  let fraction := (x.toBits &&& 0xFFFFFFFFFFFFF).toNat
  -- The least exponent field holds the numbers without a hidden leading one.
  if field == 0 then ⟨fraction, -1074, false⟩
  else ⟨0x10000000000000 + fraction, (field : Int) - 1075, fraction == 0 && 1 < field⟩

/-- The numerator of the exact size as a fraction of whole numbers. -/
def Binary.numerator (size : Binary) : Nat :=
  size.significand * powerOfTwo size.exponent.toNat

/-- The denominator of the exact size as a fraction of whole numbers. -/
def Binary.denominator (size : Binary) : Nat :=
  powerOfTwo (-size.exponent).toNat

/-- The denominator of a size is never zero. -/
theorem Binary.denominator_pos (size : Binary) : 0 < size.denominator :=
  powerOfTwo_pos _

/-- A quotient rounded to the nearest whole number, where a half goes to the even neighbour. -/
def roundHalfEven (numerator denominator : Nat) : Nat :=
  let quotient := numerator / denominator
  let rest := numerator % denominator
  match compare (2 * rest) denominator with
  | .lt => quotient
  | .gt => quotient + 1
  | .eq => if quotient % 2 == 0 then quotient else quotient + 1

/-! Doubles rounded to a number of decimal places, written without superfluous digits. -/

/-- The size of a double in units of the last place, rounded with halves going to even. -/
def Binary.units (size : Binary) (places : Nat) : Nat :=
  roundHalfEven (size.numerator * powerOfTen places) size.denominator

/-- The digits behind the point, less the zeros at their end, with the point if any are left. -/
def fractionText (places units : Nat) : List Char :=
  match ((lastDigits places units []).reverse.dropWhile (· == '0')).reverse with
  | [] => []
  | digits => '.' :: digits

/-- A whole number of units of the last place, as a decimal number. -/
def unitsText (places units : Nat) : List Char :=
  whole (units / powerOfTen places) ++ fractionText places units

/-- The largest number of places that a number can be written with. -/
def placesLimit : Nat :=
  0xFFFF

/-- Whether a double can be written with so many places; NaN and the infinities have no places. -/
def writable (places : Nat) (x : Float) : Bool :=
  x.isNaN || x.isInf || places ≤ placesLimit

/-- The doubles that cannot be written are the finite ones, and only beyond the limit. -/
theorem writable_eq_false_iff {places : Nat} {x : Float} :
    writable places x = false ↔ x.isNaN = false ∧ x.isInf = false ∧ placesLimit < places := by
  simp [writable, and_assoc]

/--
A double rounded to a number of places; a number that rounds to zero has no sign.

This is the text of a double that can be written with so many places. Whoever writes a double asks
`writable` first: beyond the limit there is no text, and the program breaks down.
-/
def placesText (places : Nat) (x : Float) : String :=
  if x.isNaN then "NaN"
  else if x.isInf then (if isNegative x then "-Infinity" else "Infinity")
  else
    let units := (Binary.ofFloat x).units places
    let text := unitsText places units
    String.ofList (if isNegative x && units != 0 then '-' :: text else text)

end Scriptlet.Decimal

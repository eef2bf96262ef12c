/-! Decimal digits: writing whole numbers at a fixed width, and reading runs of digits. -/

namespace Scriptlet.Decimal

/-- A power of ten. -/
def powerOfTen (exponent : Nat) : Nat :=
  Nat.pow 10 exponent

/-- The character of a digit below ten. -/
def digitChar (digit : Nat) : Char :=
  Char.ofNat (48 + digit)

/-- Whether a character is an ASCII decimal digit. -/
def isDigit (c : Char) : Bool :=
  48 ≤ c.toNat && c.toNat ≤ 57

/-- The value of a digit character. -/
def digitValue (c : Char) : Nat :=
  c.toNat - 48

/-- The number that a run of digits denotes, read after the digits of `start`. -/
def valueFrom (start : Nat) (digits : List Char) : Nat :=
  digits.foldl (fun value c => 10 * value + digitValue c) start

/-- The number that a run of digits denotes. -/
def value (digits : List Char) : Nat :=
  valueFrom 0 digits

/-- The last `width` decimal digits of a number, put in front of `tail`. -/
def lastDigits : Nat → Nat → List Char → List Char
  | 0, _, tail => tail
  | width + 1, n, tail => lastDigits width (n / 10) (digitChar (n % 10) :: tail)

/-- A whole number in decimal, without superfluous zeros. -/
def whole (n : Nat) : List Char :=
  Nat.toDigits 10 n

/-- A whole number of either sign in decimal. -/
def signed (n : Int) : List Char :=
  if n < 0 then '-' :: whole n.natAbs else whole n.natAbs

/-- A digit character of a digit is a digit, and its value is the digit. -/
theorem isDigit_digitChar {digit : Nat} (small : digit < 10) :
    isDigit (digitChar digit) = true ∧ digitValue (digitChar digit) = digit := by
  -- There are ten digits to look at.
  have cases : ∀ d : Fin 10, isDigit (digitChar d) = true ∧ digitValue (digitChar d) = d := by
    decide
  exact cases ⟨digit, small⟩

/-- Writing at a width adds that many characters. -/
theorem length_lastDigits (width n : Nat) (tail : List Char) :
    (lastDigits width n tail).length = width + tail.length := by
  -- The number shrinks and the tail grows at every step, so both stay quantified over.
  induction width generalizing n tail with
  | zero => simp [lastDigits]
  | succ width ih => simp only [lastDigits, ih, List.length_cons]; omega

/-- The digits written last denote the number modulo the power of ten of their width. -/
theorem valueFrom_lastDigits (width n start : Nat) (tail : List Char) :
    valueFrom start (lastDigits width n tail) =
      valueFrom (powerOfTen width * start + n % powerOfTen width) tail := by
  induction width generalizing n tail with
  | zero => simp [lastDigits, powerOfTen, Nat.mod_one]
  | succ width ih =>
    have digit := (isDigit_digitChar (Nat.mod_lt n (by decide : 0 < 10))).2
    -- The low digit is written by this step, the others by the steps before it.
    rw [lastDigits, ih]
    simp only [valueFrom, List.foldl_cons, digit]
    congr 1
    have next : powerOfTen (width + 1) = 10 * powerOfTen width := Nat.pow_succ'
    rw [next, Nat.mod_mul (x := n), Nat.mul_assoc 10]
    omega

end Scriptlet.Decimal

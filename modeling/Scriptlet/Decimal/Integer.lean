import Scriptlet.Decimal.Digits

/-! Reading decimal integers of a bounded range, with the reason why a text is not one. -/

namespace Scriptlet.Decimal

/-- Why a text is not a number. -/
inductive NumberFault where
  /-- There is nothing to read. -/
  | empty
  /-- A character that is no digit, or a sign without digits. -/
  | badDigit
  /-- The number lies above the range. -/
  | tooLarge
  /-- The number lies below the range. -/
  | tooSmall
  /-- A point where another character separates the fraction. -/
  | strayPoint
  /-- The text is no decimal numeral. -/
  | notDecimal
  deriving Repr, DecidableEq

/-- The reason in words. -/
def NumberFault.message : NumberFault → String
  | .empty => "cannot parse integer from empty string"
  | .badDigit => "invalid digit found in string"
  | .tooLarge => "number too large to fit in target type"
  | .tooSmall => "number too small to fit in target type"
  | .strayPoint => "unexpected \x60.\x60"
  | .notDecimal => "not a decimal number"

/-- Read digits from left to right, and stop at the first bad digit or where the limit is passed. -/
def readDigits (limit : Nat) (beyond : NumberFault) : Nat → List Char → Except NumberFault Nat
  | value, [] => .ok value
  | value, c :: rest =>
    if !isDigit c then .error .badDigit
    else if limit < 10 * value + digitValue c then .error beyond
    else readDigits limit beyond (10 * value + digitValue c) rest

/-- Digits that must be there. -/
def readSome (limit : Nat) (beyond : NumberFault) (digits : List Char) : Except NumberFault Nat :=
  if digits.isEmpty then .error .badDigit else readDigits limit beyond 0 digits

/-- Read a signed integer of 64 bits. -/
def readInt64 : List Char → Except NumberFault Int64
  | [] => .error .empty
  | '-' :: digits => do
    let size ← readSome 0x8000000000000000 .tooSmall digits
    return Int64.ofInt (-size)
  | '+' :: digits => do
    let size ← readSome 0x7FFFFFFFFFFFFFFF .tooLarge digits
    return Int64.ofNat size
  | digits => do
    let size ← readSome 0x7FFFFFFFFFFFFFFF .tooLarge digits
    return Int64.ofNat size

/-- Read an unsigned integer of 64 bits, with an optional plus sign. -/
def readCount : List Char → Except NumberFault Nat
  | [] => .error .empty
  | '+' :: digits => readSome 0xFFFFFFFFFFFFFFFF .tooLarge digits
  | digits => readSome 0xFFFFFFFFFFFFFFFF .tooLarge digits

/-- A run of digits within the limit is read as the number it denotes, and nothing else is read. -/
theorem readDigits_eq_ok_iff (limit : Nat) (beyond : NumberFault) (start result : Nat)
    (digits : List Char) (within : start ≤ limit) :
    readDigits limit beyond start digits = .ok result ↔
      (∀ c ∈ digits, isDigit c = true) ∧ valueFrom start digits = result ∧ result ≤ limit := by
  -- The value read so far grows along the run, so it stays quantified over.
  induction digits generalizing start with
  | nil =>
    simp only [readDigits, valueFrom, List.foldl_nil, Except.ok.injEq]
    constructor
    · rintro rfl; exact ⟨by simp, rfl, within⟩
    · rintro ⟨-, same, -⟩; exact same
  | cons c rest ih =>
    have grows : ∀ (run : List Char) (v : Nat), v ≤ valueFrom v run := by
      intro run
      induction run with
      | nil => intro v; exact Nat.le_refl v
      | cons d run ih =>
        intro v
        have := ih (10 * v + digitValue d)
        simp only [valueFrom, List.foldl_cons] at this ⊢
        omega
    simp only [readDigits]
    by_cases digit : isDigit c = true
    · by_cases past : limit < 10 * start + digitValue c
      · -- Past the limit nothing is read, and what follows only makes the number larger.
        simp only [digit, Bool.not_true, Bool.false_eq_true, if_false, past, if_true, reduceCtorEq,
          false_iff, not_and]
        intro _ same
        have := grows rest (10 * start + digitValue c)
        simp only [valueFrom, List.foldl_cons] at same this
        omega
      · simp only [digit, Bool.not_true, Bool.false_eq_true, if_false, past]
        rw [ih _ (by omega)]
        simp [digit, valueFrom]
    · simp [digit]

end Scriptlet.Decimal

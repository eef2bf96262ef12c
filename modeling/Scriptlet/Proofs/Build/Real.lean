import Scriptlet.Build.Leaf
import Scriptlet.Proofs.Decimal.Nearest
import Scriptlet.Proofs.Decimal.Written

/-!
Which texts are real numbers, and which doubles they are.

Main statement: with a separator that has no other meaning in a number, a text is read exactly if
it is a real number once the blanks around it are gone, and it is read as the double nearest to
what it says; every other text is refused with the whole of it.
-/

namespace Scriptlet.Decimal

variable {separator : Char}

/-- The double that is made of what is written has its sign, and is the one nearest to it. -/
theorem Written.nearest_double (written : Written) :
    isNegative written.double = written.minus ∧ Nearest written.double written.amount := by
  have size : NearestSize written.numeral.toFloat written.size := by
    rw [← written.amount_numeral]
    exact nearest_toFloat written.numeral
  -- The size is read first, and the sign is put in front of the double.
  cases minus : written.minus with
  | false =>
    simp only [double, amount, minus, Bool.false_eq_true, if_false]
    exact ⟨size.bare, size.toNearest⟩
  | true =>
    simp only [double, amount, minus, if_true]
    have double := isDouble_self size.number
    rw [size.bare] at double
    exact ⟨double.neg.sign, size.toNearest.neg⟩

/-- A row of characters is only refused normalization for a point in it. -/
theorem eq_strayPoint_of_normalize {chars : List Char} {fault : NumberFault}
    (refused : normalize separator chars = .error fault) : fault = .strayPoint := by
  -- By induction on the characters, up to the one that stops.
  induction chars with
  | nil => cases refused
  | cons c rest ih =>
    simp only [normalize] at refused
    -- Only a point that does not separate stops, and any other character leaves it to the rest.
    split_ifs at refused
    · rcases bind_eq_error.mp refused with here | ⟨tail, -, last⟩
      · exact ih here
      · cases last
    · exact (Except.error.inj refused).symm
    · rcases bind_eq_error.mp refused with here | ⟨tail, -, last⟩
      · exact ih here
      · cases last

/-- What is not read has a point in it that does not separate, or it is no numeral. -/
theorem fault_of_readReal {chars : List Char} {fault : NumberFault}
    (refused : readReal separator chars = .error fault) :
    fault = .strayPoint ∨ fault = .notDecimal := by
  -- Normalization comes first, and then the numeral is read.
  unfold readReal at refused
  rcases bind_eq_error.mp refused with stray | ⟨normal, -, last⟩
  · exact .inl (eq_strayPoint_of_normalize stray)
  · split at last
    · cases last
    · exact .inr (Except.error.inj last).symm

end Scriptlet.Decimal

namespace Scriptlet.Build

open Decimal

/-- With a separator that has no other meaning in a number, a text is a real number exactly if it
is written as one between blanks. It is then the double with the sign that is written which is
nearest to what is written. Any other text is refused, for a stray point or as no numeral. -/
theorem realLeaf_written {separator : Char} (separates : Separates separator) (text : String) :
    ((∃ expr, realLeaf separator text = .ok expr) ↔
      ∃ written : Written, Text.trimChars text.toList = written.chars separator) ∧
    (∀ written : Written, Text.trimChars text.toList = written.chars separator →
      ∃ x, realLeaf separator text = .ok (.literal text (.real x)) ∧
        isNegative x = written.minus ∧ Nearest x written.amount) ∧
    ((∀ written : Written, Text.trimChars text.toList ≠ written.chars separator) →
      ∃ fault, realLeaf separator text = .error (.badNumber text fault) ∧
        (fault = .strayPoint ∨ fault = .notDecimal)) := by
  -- What is written as a real number is read by the one lemma about reading, and is nearest by the
  -- other.
  have reads (written : Written) (same : Text.trimChars text.toList = written.chars separator) :
      ∃ x, realLeaf separator text = .ok (.literal text (.real x)) ∧
        isNegative x = written.minus ∧ Nearest x written.amount := by
    have read : Scriptlet.readReal separator text = .ok written.double :=
      (readReal_eq_ok_iff separates).mpr ⟨written, same, rfl⟩
    exact ⟨written.double, by rw [realLeaf, read], written.nearest_double⟩
  refine ⟨⟨fun ⟨expr, read⟩ => ?_, fun ⟨written, same⟩ => ?_⟩, reads, fun other => ?_⟩
  · -- What is read is written as a real number.
    unfold realLeaf at read
    split at read
    case h_1 x here =>
      obtain ⟨written, same, -⟩ := (readReal_eq_ok_iff separates).mp here
      exact ⟨written, same⟩
    case h_2 => cases read
  · -- What is written as a real number is read.
    obtain ⟨x, read, -⟩ := reads written same
    exact ⟨_, read⟩
  -- Whatever is not written so is not read, and the fault is one of the two.
  · unfold realLeaf
    split
    case h_1 x here =>
      obtain ⟨written, same, -⟩ := (readReal_eq_ok_iff separates).mp here
      exact absurd same (other written)
    case h_2 fault here => exact ⟨fault, rfl, fault_of_readReal here⟩

/-- A number with all its parts, as it is written with the given sign of its power. -/
def allParts : Written :=
  ⟨true, true, ['1'], some ['2', '5'], some ⟨false, some .minus, ['3'], by decide⟩, by decide⟩

/-- A number with all its parts between blanks, and a point where a comma separates. -/
theorem realLeaf_written_comma :
    Separates ',' ∧
    (∃ x, realLeaf ',' " +-1,25e-3 " = .ok (.literal " +-1,25e-3 " (.real x)) ∧
      isNegative x = true ∧ Nearest x (-(1 / 800))) ∧
    ∃ fault, realLeaf ',' "1.25" = .error (.badNumber "1.25" fault) ∧
      (fault = .strayPoint ∨ fault = .notDecimal) := by
  have separates : Separates ',' := ⟨by decide, by decide, by decide⟩
  -- The number between the blanks is one and a quarter thousandths, below zero.
  have amount : allParts.amount = -(1 / 800) := by
    have before : value allParts.before = 1 := by decide
    have fraction : value allParts.fraction = 25 := by decide
    have exponent : allParts.exponent = -3 := by decide
    rw [Written.amount, Written.size, before, fraction, exponent]
    norm_num [allParts, Written.fraction]
  refine ⟨separates, ?_, ?_⟩
  · have read := (realLeaf_written separates " +-1,25e-3 ").2.1 allParts (by decide)
    rwa [amount] at read
  · -- The point is no separator here, so that no number is written.
    refine (realLeaf_written separates "1.25").2.2 fun written same => ?_
    have read := (realLeaf_written separates "1.25").1.mpr ⟨written, same⟩
    have refused : realLeaf ',' "1.25" = .error (.badNumber "1.25" .strayPoint) := by rfl
    obtain ⟨expr, read⟩ := read
    rw [refused] at read
    cases read

end Scriptlet.Build

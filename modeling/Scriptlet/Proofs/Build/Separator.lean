import Scriptlet.Command.Options
import Scriptlet.Proofs.Build.Real

/-!
What the separator has to do with numbers without a fraction.

Main statement: a text that spells an integer is read as the double nearest to it, with a point for
a separator or with any other that does not stand in the text, plus sign in front apart. One that
stands in it parts the digits there, as a point would.
-/

namespace Scriptlet.Decimal

/-- The characters behind a plus sign in front, all of them if there is none. -/
def behindPlus : List Char → List Char
  | '+' :: rest => rest
  | chars => chars

/-- A character with the point put for the separator. -/
def dotted (separator c : Char) : Char :=
  if c = separator then '.' else c

/-- The characters of a number with points put for the separator; a plus sign in front is none. -/
def withPoints (separator : Char) : List Char → List Char
  | '+' :: rest => '+' :: rest.map (dotted separator)
  | chars => chars.map (dotted separator)

variable {separator : Char} {chars : List Char} {n : Int}

/-- To put the point for the separator first makes no difference to what a character stands for. -/
theorem pointed_dotted (separator c : Char) : pointed '.' (dotted separator c) =
    pointed separator c := by
  -- The character may be the separator, the mark, or any other one.
  unfold dotted pointed
  split_ifs <;> simp_all

/-- If there is no plus sign, all characters stand behind it. -/
theorem behindPlus_of_bare (bare : ∀ rest, chars ≠ '+' :: rest) : behindPlus chars = chars := by
  unfold behindPlus
  -- The first case is the one with a plus sign.
  split
  case h_1 rest => exact absurd rfl (bare rest)
  case h_2 => rfl

/-- Points are put behind the plus sign only. -/
theorem behindPlus_withPoints (separator : Char) (chars : List Char) :
    behindPlus (withPoints separator chars) = (behindPlus chars).map (dotted separator) := by
  unfold withPoints
  -- With a plus sign in front, this is the definition.
  split
  case h_1 => rfl
  case h_2 bare =>
    rw [behindPlus_of_bare bare, behindPlus_of_bare]
    -- A point is no plus sign, so that there is none in front now either.
    intro rest same
    obtain ⟨c, tail, rfl, plus, -⟩ := List.map_eq_cons_iff.mp same
    unfold dotted at plus
    split_ifs at plus
    · -- A point is no plus sign.
      cases plus
    · -- The first character stands for itself, and it would be a plus sign.
      exact bare tail (plus ▸ rfl)

/-- Where no point stands, a separator is read like points in its place. -/
theorem readReal_withPoints (separator : Char) (free : '.' ∉ behindPlus chars) :
    readReal separator chars = readReal '.' (withPoints separator chars) := by
  -- Neither row is refused for a stray point, and both are normalized to the same one.
  have normal : normalize separator (behindPlus chars) =
      normalize '.' (behindPlus (withPoints separator chars)) := by
    rw [behindPlus_withPoints, normalize_eq_ok fun member => absurd member free,
      normalize_eq_ok fun _ => rfl, List.map_map]
    exact congrArg _ (List.map_congr_left fun c _ => (pointed_dotted separator c).symm)
  change (normalize separator (behindPlus chars) >>= _) = normalize '.' (behindPlus _) >>= _
  rw [normal]

/-- Behind a plus sign an integer is spelled with digits and a minus sign at most. -/
theorem Spells.mem_behindPlus (spells : Spells chars n) {c : Char} (member : c ∈ behindPlus chars) :
    c = '-' ∨ isDigit c = true := by
  -- It may be spelled without a sign, behind a plus sign or behind a minus sign.
  cases spells with
  | plain run =>
    rw [behindPlus_of_bare fun rest same => ?_] at member
    · exact .inr (run.2 c member)
    · -- Digits do not start with a plus sign.
      have sign := run.2 '+' (same ▸ List.mem_cons_self)
      cases sign
  | plus run => exact .inr (run.2 c member)
  | minus run => exact (List.mem_cons.mp member).imp_right (run.2 c)

/-- A number without a fraction and without a power of ten. -/
def Written.whole (plus minus : Bool) {digits : List Char} (run : Digits digits) : Written :=
  ⟨plus, minus, digits, none, none, by simpa using run⟩

/-- A number without a fraction denotes what its digits denote, with its sign. -/
theorem Written.amount_whole (plus minus : Bool) {digits : List Char} (run : Digits digits) :
    (whole plus minus run).amount = if minus then -(value digits : ℚ) else value digits := by
  -- There are no digits behind the point.
  have empty : value [] = 0 := rfl
  simp [whole, amount, size, fraction, exponent, empty]

/-- An integer is spelled like a real number without a fraction. -/
theorem Spells.exists_written (spells : Spells chars n) (separator : Char) :
    ∃ written : Written, chars = written.chars separator ∧ written.amount = n ∧
      written.minus = (chars.head? == some '-') := by
  -- It may be spelled without a sign, behind a plus sign or behind a minus sign.
  cases spells with
  | @plain digits run =>
    refine ⟨.whole false false run, ?_, by simp [Written.amount_whole], ?_⟩
    · simp [Written.whole, Written.chars, Written.unsigned, Written.body]
    · -- The first character is a digit, and no sign.
      have bare : chars.head? ≠ some '-' := fun same =>
        ne_of_isDigit (run.2 '-' (List.mem_of_mem_head? same)) rfl rfl
      exact (beq_false_of_ne bare).symm
  | plus run =>
    refine ⟨.whole true false run, ?_, by simp [Written.amount_whole], rfl⟩
    simp [Written.whole, Written.chars, Written.unsigned, Written.body]
  | minus run =>
    refine ⟨.whole false true run, ?_, by simp [Written.amount_whole], rfl⟩
    simp [Written.whole, Written.chars, Written.unsigned, Written.body]

/-- A separator that does not stand in a number has no point put for it. -/
theorem withPoints_of_notMem (absent : separator ∉ behindPlus chars) :
    withPoints separator chars = chars := by
  -- No character of the row is the separator.
  have kept {row : List Char} (absent : separator ∉ row) : row.map (dotted separator) = row := by
    conv => rhs; rw [← List.map_id row]
    exact List.map_congr_left fun c member => if_neg (ne_of_mem_of_not_mem member absent)
  -- There is a plus sign in front, or there is none.
  unfold withPoints
  split
  case h_1 rest => exact congrArg _ (kept absent)
  case h_2 bare => exact kept (behindPlus_of_bare bare ▸ absent)

/-- A point is no part of an integer. -/
theorem Spells.point_notMem (spells : Spells chars n) : '.' ∉ behindPlus chars := fun member =>
  (spells.mem_behindPlus member).elim nofun nofun

end Scriptlet.Decimal

namespace Scriptlet.Build

open Decimal

/-- A text that spells an integer is read as the double nearest to it, with a point for a separator
and with any other that does not stand in the text behind a plus sign in front. Only a digit or a
minus sign can stand there, and it is then read as a point would be in its place. -/
theorem readReal_of_spells (separator : Char) {text : String} {n : Int}
    (spells : Spells (Text.trimChars text.toList) n) :
    let chars := Text.trimChars text.toList
    (separator ∉ behindPlus chars → Scriptlet.readReal separator text =
        Scriptlet.readReal '.' text ∧
      ∃ x, Scriptlet.readReal '.' text = .ok x ∧
        isNegative x = (chars.head? == some '-') ∧ Nearest x n) ∧
    (separator ∈ behindPlus chars → separator = '-' ∨ isDigit separator = true) ∧
    Scriptlet.readReal separator text = Decimal.readReal '.' (withPoints separator chars) := by
  intro chars
  -- The reading with points put for the separator is the common ground of all parts.
  have pointed : Scriptlet.readReal separator text =
      Decimal.readReal '.' (withPoints separator chars) :=
    readReal_withPoints separator spells.point_notMem
  refine ⟨fun absent => ⟨?_, ?_⟩, spells.mem_behindPlus, pointed⟩
  · -- There is no place for a point to be put.
    rw [pointed, withPoints_of_notMem absent]
    rfl
  · -- With the point an integer is read as any real number is.
    have separates : Separates '.' := ⟨by decide, by decide, by decide⟩
    obtain ⟨written, same, amount, minus⟩ := spells.exists_written '.'
    obtain ⟨sign, near⟩ := written.nearest_double
    exact ⟨written.double, (readReal_eq_ok_iff separates).mpr ⟨written, same, rfl⟩,
      sign.trans minus, amount ▸ near⟩

/-- A comma has nothing to do in a number without a fraction, nor has the plus sign. -/
theorem readReal_of_spells_comma :
    Spells (Text.trimChars " -15 ".toList) (-15) ∧
    ',' ∉ behindPlus (Text.trimChars " -15 ".toList) ∧
    Scriptlet.readReal ',' " -15 " = Scriptlet.readReal '.' " -15 " := by
  -- The blanks around the text are gone before it is spelled.
  have run : Digits ['1', '5'] := by decide
  have spells : Spells (Text.trimChars " -15 ".toList) (-15) := .minus run
  have absent : ',' ∉ behindPlus (Text.trimChars " -15 ".toList) := by decide
  exact ⟨spells, absent, ((readReal_of_spells ',' spells).1 absent).1⟩

/-- A digit may be a separator, and then it parts the digits where it stands. -/
theorem readReal_separator_digit :
    ¬ ∀ (word : String) (separator : Char), Command.readSeparator word = .ok separator →
      ∀ (text : String) (n : Int), Spells text.toList n →
        Scriptlet.readReal separator text = Scriptlet.readReal '.' text := by
  intro same
  have run : Digits ['1', '5'] := by decide
  have spells : Spells "15".toList 15 := .plain run
  -- The five is taken for the point, and there is nothing behind it.
  have read := same "5" '5' rfl "15" 15 spells
  have parted : Scriptlet.readReal '5' "15" = .ok 1 := rfl
  have whole : Scriptlet.readReal '.' "15" = .ok 15 := rfl
  rw [parted, whole] at read
  have := Except.ok.inj read
  revert this
  decide

end Scriptlet.Build

import Mathlib.Algebra.Order.Field.Power
import Mathlib.Algebra.Order.Ring.Rat
import Mathlib.Tactic.FieldSimp
import Mathlib.Tactic.Ring
import Scriptlet.Proofs.Decimal.Spelling

/-!
Real numbers as they are written, part by part, and the exact numbers that they denote.

Main statement: with a separator that has no other meaning in a number, a row of characters is read
exactly if it is a real number written so, and what is read are its digits and its power of ten.
-/

namespace Scriptlet.Decimal

/-- A sign in front of digits. -/
inductive Sign where
  /-- The sign that changes nothing. -/
  | plus
  /-- The sign of what lies below zero. -/
  | minus
  deriving DecidableEq

/-- The character of a sign. -/
def Sign.char : Sign → Char
  | plus => '+'
  | minus => '-'

/-- A power of ten as it is written behind a mantissa. -/
structure Power where
  /-- Whether the mark in front of it is a capital. -/
  capital : Bool
  /-- The sign of the power, if it has one. -/
  sign : Option Sign
  /-- The digits of the power. -/
  digits : List Char
  /-- There is a digit, and there is nothing else. -/
  run : Digits digits

namespace Power

/-- The characters behind the mark. -/
def written (power : Power) : List Char :=
  (power.sign.map Sign.char).toList ++ power.digits

/-- The characters of a power of ten. -/
def chars (power : Power) : List Char :=
  (if power.capital then 'E' else 'e') :: power.written

/-- The exponent that is written. -/
def exponent (power : Power) : Int :=
  if power.sign = some .minus then -(value power.digits : Int) else value power.digits

end Power

/-- A real number as it is written. -/
structure Written where
  /-- Whether it starts with a plus sign. -/
  plus : Bool
  /-- Whether a minus sign stands next. -/
  minus : Bool
  /-- The digits in front of the separator, or all digits if there is none. -/
  before : List Char
  /-- The digits behind the separator, if there is one. -/
  behind : Option (List Char)
  /-- The power of ten, if there is one. -/
  power : Option Power
  /-- There is a digit on either side of the separator, and there is nothing else. -/
  run : Digits (before ++ behind.getD [])

namespace Written

/-- The digits behind the separator. -/
def fraction (written : Written) : List Char :=
  written.behind.getD []

/-- The exponent of the power of ten, zero if there is none. -/
def exponent (written : Written) : Int :=
  written.power.elim 0 Power.exponent

/-- The characters behind the signs, with the given separator and powers of ten. -/
def body (separator : Char) (mark : Power → List Char) (written : Written) : List Char :=
  written.before ++ (written.behind.elim [] (separator :: ·) ++ written.power.elim [] mark)

/-- The characters behind the signs, with the given separator. -/
def unsigned (separator : Char) (written : Written) : List Char :=
  written.body separator Power.chars

/-- The characters of a real number, with the given separator. -/
def chars (separator : Char) (written : Written) : List Char :=
  (if written.plus then ['+'] else []) ++
    ((if written.minus then ['-'] else []) ++ written.unsigned separator)

/-- The exact number that is denoted, sign apart. -/
def size (written : Written) : ℚ :=
  (value written.before + value written.fraction / 10 ^ written.fraction.length) *
    10 ^ written.exponent

/-- The exact number that is denoted. -/
def amount (written : Written) : ℚ :=
  if written.minus then -written.size else written.size

/-- The digits and the power of ten of what is denoted. -/
def numeral (written : Written) : Numeral :=
  ⟨value (written.before ++ written.fraction), written.exponent - written.fraction.length⟩

end Written

/-- The exact number of digits and a power of ten. -/
def Numeral.amount (numeral : Numeral) : ℚ :=
  numeral.digits * 10 ^ numeral.exponent

/-- Digits that are read behind others add their own number. -/
theorem valueFrom_eq (start : Nat) (digits : List Char) :
    valueFrom start digits = start * 10 ^ digits.length + value digits := by
  -- Each further digit moves what was read so far by one place.
  induction digits generalizing start with
  | nil => simp [valueFrom, value]
  | cons c rest ih =>
    have first := ih (10 * start + digitValue c)
    have alone := ih (10 * 0 + digitValue c)
    simp only [valueFrom, value, List.foldl_cons, List.length_cons] at first alone ⊢
    rw [first, alone]
    ring

/-- Two runs of digits, one behind the other, denote the first one moved and the second one. -/
theorem value_append (front back : List Char) :
    value (front ++ back) = value front * 10 ^ back.length + value back := by
  -- The second run is read on from what the first has given.
  rw [← valueFrom_eq, value, value, valueFrom, valueFrom, valueFrom, List.foldl_append]

/-- The digits and the power of ten make up the exact number. -/
theorem Written.amount_numeral (written : Written) : written.numeral.amount = written.size := by
  have ten : (10 : ℚ) ≠ 0 := by norm_num
  -- Moving the point over the fraction divides by a power of ten.
  rw [Numeral.amount, size, numeral, value_append, zpow_sub₀ ten, zpow_natCast]
  push_cast
  field_simp

/-! Numerals are read with a point and a capital mark. -/

/-- Digits pass for an exponent, and nothing else does. -/
theorem digits_iff (digits : List Char) :
    Digits digits ↔ (digits.isEmpty || !digits.all isDigit) = false := by
  -- One digit at least, and nothing but digits.
  simp [Digits]

/-- What is read as an exponent is the written one of some power of ten. -/
theorem readExponent?_eq_some_iff {chars : List Char} {exponent : Int} :
    readExponent? chars = some exponent ↔
      ∃ power : Power, chars = power.written ∧ exponent = power.exponent := by
  constructor
  · intro read
    unfold readExponent? at read
    -- The sign goes first, and what is left has to be digits.
    split at read
    rename_i negative digits parted
    by_cases run : Digits digits
    · rw [if_neg (by simpa using (digits_iff digits).mp run)] at read
      cases read
      split at parted <;> cases parted
      · exact ⟨⟨true, some .minus, _, run⟩, rfl, rfl⟩
      · exact ⟨⟨true, some .plus, _, run⟩, rfl, rfl⟩
      · exact ⟨⟨true, none, _, run⟩, rfl, rfl⟩
    · rw [if_pos (Bool.of_not_eq_false (mt (digits_iff digits).mpr run))] at read
      cases read
  -- The sign is one of the two, or there is none.
  · rintro ⟨⟨capital, sign, digits, run⟩, rfl, rfl⟩
    obtain ⟨filled, all⟩ := run.passes
    rcases sign with _ | _ | _
    · -- Neither sign is a digit, so that there is none to be taken away.
      cases digits with
      | nil => cases filled
      | cons c rest =>
        have digit := run.2 c List.mem_cons_self
        have minus := ne_of_isDigit digit (d := '-') rfl
        have plus := ne_of_isDigit digit (d := '+') rfl
        simp [readExponent?, Power.written, Power.exponent, minus, plus, all]
    · -- A plus sign is taken away.
      simp [readExponent?, Power.written, Power.exponent, Sign.char, filled, all]
    · -- A minus sign is taken away and kept in mind.
      simp [readExponent?, Power.written, Power.exponent, Sign.char, filled, all]

/-- The characters behind the signs, with a point and a capital mark. -/
def Written.normal (written : Written) : List Char :=
  written.body '.' fun power => 'E' :: power.written

/-- A numeral is read as its digits and its power of ten. -/
theorem read?_normal (written : Written) :
    Numeral.read? written.normal = some written.numeral := by
  obtain ⟨plus, minus, before, behind, power, run⟩ := written
  obtain ⟨filled, all⟩ := run.passes
  have digit : ∀ c ∈ before ++ behind.getD [], c ≠ '.' ∧ c ≠ 'E' := fun c member =>
    ⟨ne_of_isDigit (run.2 c member) rfl, ne_of_isDigit (run.2 c member) rfl⟩
  -- First the numeral parts at its mark, and then what is in front of the mark at its point.
  have unmarked : ∀ c ∈ before ++ behind.elim [] ('.' :: ·), c ≠ 'E' := by
    intro c member
    rcases List.mem_append.mp member with front | back
    · exact (digit c (List.mem_append_left _ front)).2
    · cases behind with
      | none => cases back
      | some fraction =>
        rcases List.mem_cons.mp back with rfl | back
        · decide
        · exact (digit c (List.mem_append_right _ back)).2
  have mark := parted_at unmarked (power.elim [] fun power => 'E' :: power.written)
    (by cases power <;> simp)
  have point := parted_at (fun c member => (digit c (List.mem_append_left _ member)).1)
    (behind.elim [] ('.' :: ·)) (by cases behind <;> simp)
  have fraction : (behind.elim [] ('.' :: ·)).drop 1 = behind.getD [] := by cases behind <;> rfl
  rw [List.append_assoc] at mark
  simp only [Numeral.read?, Written.normal, Written.body, mark, point, fraction, filled, all]
  -- Without a power of ten, the exponent is zero.
  cases power with
  | none => rfl
  | some power =>
    have exponent := readExponent?_eq_some_iff.mpr ⟨power, rfl, rfl⟩
    simp [exponent, Written.numeral, Written.exponent, Written.fraction]

/-- What is left of a row from the first stop on is nothing, or starts with the stop. -/
theorem stopped (stop : Char) (chars : List Char) :
    chars.dropWhile (fun c => !(c == stop)) = [] ∨
      ∃ rest, chars.dropWhile (fun c => !(c == stop)) = stop :: rest := by
  -- Everything up to the first stop has been dropped.
  have first := List.head?_dropWhile_not (fun c => !(c == stop)) chars
  cases left : chars.dropWhile (fun c => !(c == stop)) with
  | nil => exact .inl rfl
  | cons c rest =>
    have same : c = stop := by simpa [left] using first
    exact .inr ⟨rest, by rw [same]⟩

/-- What is read as digits and a power of ten is written so. -/
theorem exists_normal_of_read? {chars : List Char} {numeral : Numeral}
    (read : Numeral.read? chars = some numeral) (plus minus : Bool) :
    ∃ written : Written, written.plus = plus ∧ written.minus = minus ∧
      chars = written.normal ∧ numeral = written.numeral := by
  -- The row is parted at its mark, and what stands in front of that at its point.
  simp only [Numeral.read?] at read
  have whole := List.takeWhile_append_dropWhile (p := fun c => !(c == 'E')) (l := chars)
  generalize chars.takeWhile (fun c => !(c == 'E')) = mantissa at *
  have parts := List.takeWhile_append_dropWhile (p := fun c => !(c == '.')) (l := mantissa)
  generalize mantissa.takeWhile (fun c => !(c == '.')) = before at *
  -- There is a point or none, and there is a mark or none.
  obtain ⟨behind, point⟩ : ∃ behind : Option (List Char),
      mantissa.dropWhile (fun c => !(c == '.')) = behind.elim [] ('.' :: ·) := by
    rcases stopped '.' mantissa with none | ⟨rest, some⟩
    · exact ⟨.none, none⟩
    · exact ⟨.some rest, some⟩
  have fraction : (behind.elim [] ('.' :: ·)).drop 1 = behind.getD [] := by cases behind <;> rfl
  rw [point] at parts read
  rw [fraction] at read
  have run : Digits (before ++ behind.getD []) := by
    by_contra other
    -- A mantissa without digits, or with anything else in it, stops the reading.
    have fails : (!(before ++ behind.getD []).isEmpty && (before ++ behind.getD []).all isDigit) =
        false := by
      have := Bool.of_not_eq_false (mt (digits_iff _).mpr other)
      grind
    rw [fails] at read
    cases read
  obtain ⟨filled, all⟩ := run.passes
  simp only [filled, all] at read
  rcases stopped 'E' chars with none | ⟨rest, some⟩
  · -- Without a mark there is no power of ten.
    rw [none] at whole read
    cases read
    refine ⟨⟨plus, minus, before, behind, .none, run⟩, rfl, rfl, ?_, rfl⟩
    simp [Written.normal, Written.body, parts, ← whole]
  · -- Behind the mark, the power of ten has to be read.
    rw [some] at whole read
    obtain ⟨exponent, reads, same⟩ : ∃ exponent, readExponent? rest = .some exponent ∧ _ :=
      Option.bind_eq_some_iff.mp read
    obtain ⟨power, rfl, rfl⟩ := readExponent?_eq_some_iff.mp reads
    cases same
    refine ⟨⟨plus, minus, before, behind, .some power, run⟩, rfl, rfl, ?_, rfl⟩
    simp [Written.normal, Written.body, ← whole, ← parts]

/-! A separator stands for the point. -/

/-- Whether a character can separate the fraction: it has no other meaning in a number. -/
structure Separates (separator : Char) : Prop where
  /-- It is no digit. -/
  digit : isDigit separator = false
  /-- It is no sign. -/
  sign : separator ≠ '+' ∧ separator ≠ '-'
  /-- It is no mark of a power of ten. -/
  mark : separator ≠ 'e' ∧ separator ≠ 'E'

variable {separator : Char}

/-- What is no separator and no small mark stands for itself. -/
theorem map_pointed_of_ne {chars : List Char} (free : ∀ c ∈ chars, c ≠ separator ∧ c ≠ 'e') :
    chars.map (pointed separator) = chars := by
  -- Each character is replaced by itself.
  refine List.map_congr_left (g := id) (fun c member => ?_) |>.trans (List.map_id chars)
  rw [pointed, if_neg (free c member).1, if_neg (free c member).2, id]

/-- What is read as neither point nor mark stands for itself. -/
theorem eq_of_map_pointed {chars plain : List Char} (free : ∀ c ∈ plain, c ≠ '.' ∧ c ≠ 'E')
    (same : chars.map (pointed separator) = plain) : chars = plain := by
  rw [← same]
  symm
  refine map_pointed_of_ne fun c member => ?_
  have kept := free (pointed separator c) (same ▸ List.mem_map_of_mem member)
  -- The separator would have become a point, and a small mark a capital one.
  constructor
  · rintro rfl
    simp [pointed] at kept
  · rintro rfl
    unfold pointed at kept
    split at kept <;> simp at kept

/-- A written power of ten holds signs and digits only. -/
theorem Power.mem_written {power : Power} {c : Char} (member : c ∈ power.written) :
    c = '+' ∨ c = '-' ∨ isDigit c = true := by
  obtain ⟨capital, sign, digits, run⟩ := power
  -- A character of it is in front of the digits or among them.
  rcases List.mem_append.mp member with front | back
  · rcases sign with _ | _ | _ <;> simp [Sign.char] at front
    · exact .inl front
    · exact .inr (.inl front)
  · exact .inr (.inr (run.2 c back))

/-- With the separator for the point and a capital mark, a number behind its signs is a numeral. -/
theorem map_pointed_unsigned (separates : Separates separator) (written : Written) :
    (written.unsigned separator).map (pointed separator) = written.normal := by
  -- Digits stand for themselves, the separator for the point, and the mark is raised.
  obtain ⟨plus, minus, before, behind, power, run⟩ := written
  have plain {c : Char} (digit : isDigit c = true) : c ≠ separator ∧ c ≠ 'e' :=
    ⟨ne_of_isDigit digit separates.digit, ne_of_isDigit digit rfl⟩
  have front := map_pointed_of_ne fun c member => plain (run.2 c (List.mem_append_left _ member))
  have point : (behind.elim [] (separator :: ·)).map (pointed separator) =
      behind.elim [] ('.' :: ·) := by
    -- Without a separator there is nothing to replace.
    cases behind with
    | none => rfl
    | some fraction =>
      have back := map_pointed_of_ne fun c member =>
        plain (run.2 c (List.mem_append_right _ member))
      simpa [pointed] using back
  have mark : (power.elim [] Power.chars).map (pointed separator) =
      power.elim [] fun power => 'E' :: power.written := by
    cases power with
    | none => rfl
    | some power =>
      have back : power.written.map (pointed separator) = power.written := by
        refine map_pointed_of_ne fun c member => ?_
        rcases Power.mem_written member with rfl | rfl | digit
        · exact ⟨separates.sign.1.symm, by decide⟩
        · exact ⟨separates.sign.2.symm, by decide⟩
        · exact plain digit
      have small := separates.mark.1.symm
      have large := separates.mark.2.symm
      cases same : power.capital <;> simp [Power.chars, same, pointed, small, large, back]
  simp only [Written.unsigned, Written.normal, Written.body, List.map_append, front, point, mark]

/-- A point in a number is its separator. -/
theorem eq_of_point_mem {written : Written} (member : '.' ∈ written.unsigned separator) :
    separator = '.' := by
  obtain ⟨plus, minus, before, behind, power, run⟩ := written
  have digits : ∀ c ∈ before ++ behind.getD [], c ≠ '.' := fun c member =>
    ne_of_isDigit (run.2 c member) rfl
  simp only [Written.unsigned, Written.body, List.mem_append] at member
  -- It is no digit, no sign and no mark, so that the separator is all that it can be.
  rcases member with front | point | mark
  · exact absurd rfl (digits '.' (List.mem_append_left _ front))
  · cases behind with
    | none => cases point
    | some fraction =>
      rcases List.mem_cons.mp point with same | back
      · exact same.symm
      · exact absurd rfl (digits '.' (List.mem_append_right _ back))
  · cases power with
    | none => cases mark
    | some power =>
      rcases List.mem_cons.mp mark with same | back
      · split at same <;> cases same
      · rcases Power.mem_written back with same | same | digit
        · cases same
        · cases same
        · cases digit

/-- What is a numeral with the separator for the point is a number behind its signs. -/
theorem exists_unsigned_of_map {chars : List Char} {written : Written}
    (clear : '.' ∈ chars → separator = '.')
    (same : chars.map (pointed separator) = written.normal) :
    ∃ found : Written, found.plus = written.plus ∧ found.minus = written.minus ∧
      found.numeral = written.numeral ∧ chars = found.unsigned separator := by
  obtain ⟨plus, minus, before, behind, power, run⟩ := written
  have digits : ∀ c ∈ before ++ behind.getD [], c ≠ '.' ∧ c ≠ 'E' := fun c member =>
    ⟨ne_of_isDigit (run.2 c member) rfl, ne_of_isDigit (run.2 c member) rfl⟩
  -- The row is cut where the numeral is, and each piece is traced back on its own.
  obtain ⟨front, others, rfl, here, rest⟩ := List.map_eq_append_iff.mp same
  obtain ⟨point, mark, rfl, there, last⟩ := List.map_eq_append_iff.mp rest
  obtain rfl := eq_of_map_pointed (fun c member => digits c (List.mem_append_left _ member)) here
  -- The separator stands where the point does.
  have separated : point = behind.elim [] (separator :: ·) := by
    cases behind with
    | none => simpa using there
    | some fraction =>
      obtain ⟨c, tail, rfl, dot, back⟩ := List.map_eq_cons_iff.mp there
      obtain rfl :=
        eq_of_map_pointed (fun c member => digits c (List.mem_append_right _ member)) back
      have first : c = separator := by
        unfold pointed at dot
        split at dot
        case isTrue equal => exact equal
        case isFalse =>
          split at dot
          · cases dot
          · exact dot.trans (clear (by simp [dot])).symm
      rw [first]
      rfl
  -- The mark is of either case.
  obtain ⟨raised, exponent, marked⟩ : ∃ raised : Option Power,
      raised.elim 0 Power.exponent = power.elim 0 Power.exponent ∧
        mark = raised.elim [] Power.chars := by
    cases power with
    | none => exact ⟨none, rfl, by simpa using last⟩
    | some power =>
      obtain ⟨c, tail, rfl, raised, back⟩ := List.map_eq_cons_iff.mp last
      have plain : ∀ c ∈ power.written, c ≠ '.' ∧ c ≠ 'E' := by
        intro c member
        rcases Power.mem_written member with rfl | rfl | digit
        · decide
        · decide
        · exact ⟨ne_of_isDigit digit rfl, ne_of_isDigit digit rfl⟩
      obtain rfl := eq_of_map_pointed plain back
      have first : c = 'e' ∨ c = 'E' := by
        unfold pointed at raised
        split at raised
        · cases raised
        · split at raised
          case isTrue equal => exact .inl equal
          case isFalse => exact .inr raised
      refine ⟨some { power with capital := decide (c = 'E') }, rfl, ?_⟩
      -- The capital is told by the mark that is found.
      rcases first with rfl | rfl <;> rfl
  refine ⟨⟨plus, minus, front, behind, raised, run⟩, rfl, rfl, ?_, ?_⟩
  · simp only [Written.numeral, Written.exponent, Written.fraction, exponent]
  · simp only [Written.unsigned, Written.body, separated, marked]

/-- A row of characters is normalized if it has no point, or if the point separates. -/
theorem normalize_eq_ok_iff {chars normal : List Char} :
    normalize separator chars = .ok normal ↔
      ('.' ∈ chars → separator = '.') ∧ chars.map (pointed separator) = normal := by
  -- A point in the row has to be met as the separator, or the row is refused.
  constructor
  · intro done
    have clear : '.' ∈ chars → separator = '.' := by
      induction chars generalizing normal with
      | nil => nofun
      | cons c rest ih =>
        intro member
        simp only [normalize] at done
        -- The separator comes first, then the stray point, then everything else.
        split_ifs at done with point stray
        · obtain ⟨tail, back, -⟩ := bind_eq_ok.mp done
          rcases List.mem_cons.mp member with rfl | member
          · exact (beq_iff_eq.mp point).symm
          · exact ih back member
        · obtain ⟨tail, back, -⟩ := bind_eq_ok.mp done
          -- The point is not this character, which was let pass.
          have other : '.' ≠ c := fun same => stray (beq_iff_eq.mpr same.symm)
          exact ih back ((List.mem_cons.mp member).resolve_left other)
    have mapped := (normalize_eq_ok clear).symm.trans done
    exact ⟨clear, by simpa using mapped⟩
  · rintro ⟨clear, rfl⟩
    exact normalize_eq_ok clear

namespace Written

/-- The minus sign, if there is one. -/
def minusChars (written : Written) : List Char :=
  if written.minus then ['-'] else []

/-- The double that is made of what is written. -/
def double (written : Written) : Float :=
  if written.minus then -written.numeral.toFloat else written.numeral.toFloat

/-- Behind its signs a number starts with a digit or the separator. -/
theorem mem_head_body {written : Written} {mark : Power → List Char} {c : Char}
    (first : c ∈ (written.body separator mark).head?) : isDigit c = true ∨ c = separator := by
  obtain ⟨plus, minus, before, behind, power, run⟩ := written
  -- The first character is one of the digits in front of the separator, if there are any.
  cases before with
  | cons d rest =>
    obtain rfl : d = c := by simpa [body] using first
    exact .inl (run.2 d List.mem_cons_self)
  | nil =>
    cases behind with
    | none => exact absurd rfl run.1
    | some fraction =>
      obtain rfl : separator = c := by simpa [body] using first
      exact .inr rfl

/-- Without a plus sign a number does not start with one. -/
theorem head_chars_ne_plus (separates : Separates separator) {written : Written}
    (bare : written.plus = false) : ∀ c ∈ (written.chars separator).head?, c ≠ '+' := by
  -- Whatever stands first is not a plus sign.
  intro c first
  cases minus : written.minus with
  | true =>
    -- A minus sign stands first.
    obtain rfl : '-' = c := by simpa [chars, bare, minus] using first
    decide
  | false =>
    have front : c ∈ (written.unsigned separator).head? := by
      simpa [chars, bare, minus] using first
    rcases mem_head_body front with digit | rfl
    · exact ne_of_isDigit digit rfl
    · exact separates.sign.1

end Written

/-- A numeral with its sign is read as the double that is made of it, and nothing else is. -/
theorem readSigned?_eq_some_iff {chars : List Char} {x : Float} (plus : Bool) :
    readSigned? chars = some x ↔
      ∃ written : Written, written.plus = plus ∧
        chars = written.minusChars ++ written.normal ∧ x = written.double := by
  constructor
  · intro read
    unfold readSigned? at read
    -- The minus sign is there, or it is not.
    split at read
    · obtain ⟨numeral, reads, rfl⟩ := Option.map_eq_some_iff.mp read
      obtain ⟨written, signed, minus, rfl, rfl⟩ := exists_normal_of_read? reads plus true
      exact ⟨written, signed, by simp [Written.minusChars, minus], by simp [Written.double, minus]⟩
    · obtain ⟨numeral, reads, rfl⟩ := Option.map_eq_some_iff.mp read
      obtain ⟨written, signed, minus, rfl, rfl⟩ := exists_normal_of_read? reads plus false
      exact ⟨written, signed, by simp [Written.minusChars, minus], by simp [Written.double, minus]⟩
  · rintro ⟨written, -, rfl, rfl⟩
    have reads := read?_normal written
    cases minus : written.minus
    · -- Without a sign there is nothing to be taken away.
      simp only [Written.minusChars, Written.double, minus, Bool.false_eq_true, if_false,
        List.nil_append]
      unfold readSigned?
      split
      case h_1 rest same =>
        have first : '-' ∈ written.normal.head? := by simp [same]
        rcases Written.mem_head_body first with digit | point
        · cases digit
        · cases point
      case h_2 => simp [reads]
    · simp [Written.minusChars, Written.double, minus, readSigned?, reads]

/-- Behind its plus sign a number is read as the double that is made of it. -/
theorem readNormal_eq_ok_iff (separates : Separates separator) {chars : List Char} {x : Float}
    (plus : Bool) :
    (∃ normal, normalize separator chars = .ok normal ∧ readSigned? normal = some x) ↔
      ∃ written : Written, written.plus = plus ∧
        chars = written.minusChars ++ written.unsigned separator ∧ x = written.double := by
  constructor
  · rintro ⟨normal, done, read⟩
    obtain ⟨clear, mapped⟩ := normalize_eq_ok_iff.mp done
    obtain ⟨written, signed, rfl, rfl⟩ := (readSigned?_eq_some_iff plus).mp read
    obtain ⟨front, back, rfl, sign, rest⟩ := List.map_eq_append_iff.mp mapped
    -- A minus sign can only come from a minus sign.
    have kept : front = written.minusChars := by
      refine eq_of_map_pointed (fun c member => ?_) sign
      unfold Written.minusChars at member
      split at member
      · rw [List.mem_singleton.mp member]
        decide
      · cases member
    obtain ⟨found, samePlus, sameMinus, same, rfl⟩ :=
      exists_unsigned_of_map (fun member => clear (List.mem_append_right _ member)) rest
    refine ⟨found, samePlus.trans signed, ?_, ?_⟩
    · rw [kept, Written.minusChars, Written.minusChars, sameMinus]
    · rw [Written.double, Written.double, sameMinus, same]
  · -- A point in what is written separates, and normalization changes no minus sign.
    rintro ⟨written, signed, rfl, rfl⟩
    refine ⟨written.minusChars ++ written.normal, normalize_eq_ok_iff.mpr ⟨?_, ?_⟩,
      (readSigned?_eq_some_iff plus).mpr ⟨written, signed, rfl, rfl⟩⟩
    · intro member
      refine eq_of_point_mem ((List.mem_append.mp member).resolve_left ?_)
      unfold Written.minusChars
      split <;> simp
    · have minus : written.minusChars.map (pointed separator) = written.minusChars := by
        refine map_pointed_of_ne fun c member => ?_
        unfold Written.minusChars at member
        split at member
        · rw [List.mem_singleton.mp member]
          exact ⟨separates.sign.2.symm, by decide⟩
        · cases member
      rw [List.map_append, minus, map_pointed_unsigned separates]

/-- What is read behind the plus sign is a numeral once the separator is the point. -/
theorem readReal_normal {chars : List Char} {x : Float} :
    readReal separator chars = .ok x ↔
      ∃ normal, normalize separator (match chars with | '+' :: rest => rest | rest => rest) =
        .ok normal ∧ readSigned? normal = some x := by
  -- Reading fails where normalization does, or where nothing is a numeral.
  unfold readReal
  dsimp only
  rw [bind_eq_ok]
  refine exists_congr fun normal => and_congr_right fun _ => ?_
  cases readSigned? normal <;> simp

/-- A real number is read as the double that is made of it, and nothing else is read. -/
theorem readReal_eq_ok_iff (separates : Separates separator) {chars : List Char} {x : Float} :
    readReal separator chars = .ok x ↔
      ∃ written : Written, chars = written.chars separator ∧ x = written.double := by
  rw [readReal_normal]
  -- One plus sign is taken away if there is one, and behind it the two cases are the same.
  split
  case h_1 rest =>
    rw [readNormal_eq_ok_iff separates true]
    refine exists_congr fun written => ?_
    cases plus : written.plus with
    | true => simp [Written.chars, Written.minusChars, plus]
    | false =>
      -- Without its plus sign a number starts with neither.
      have other : '+' :: rest ≠ written.chars separator := fun same =>
        Written.head_chars_ne_plus separates plus '+' (by simp [← same]) rfl
      simp [other]
  case h_2 bare =>
    rw [readNormal_eq_ok_iff separates false]
    refine exists_congr fun written => ?_
    cases plus : written.plus with
    -- Behind a plus sign the number would have been parted from it.
    | true =>
      have other : chars ≠ written.chars separator := fun same =>
        bare _ (same.trans (by rw [Written.chars, if_pos plus]; rfl))
      simp [other]
    | false => simp [Written.chars, Written.minusChars, plus]

/-- Whether an optional sign stands in front can be told where none follows. -/
theorem eq_of_optional {sign : Char} {here there : Bool} {front back : List Char}
    (bare : ∀ c ∈ front.head?, c ≠ sign) (bare' : ∀ c ∈ back.head?, c ≠ sign)
    (same : (if here then [sign] else []) ++ front = (if there then [sign] else []) ++ back) :
    here = there ∧ front = back := by
  -- One sign too many would have to stand at the head of the other text.
  cases here <;> cases there
  · exact ⟨rfl, same⟩
  · exact absurd rfl (bare sign (by simp_all))
  · exact absurd rfl (bare' sign (by simp_all [eq_comm]))
  · exact ⟨rfl, List.cons.inj same |>.2⟩

/-- There is no second way to read what is written. -/
theorem Written.amount_eq_of_chars_eq (separates : Separates separator) {first second : Written}
    (same : first.chars separator = second.chars separator) : first.amount = second.amount := by
  have signless (written : Written) : ∀ c ∈ (written.unsigned separator).head?, c ≠ '-' := by
    intro c here
    rcases mem_head_body here with digit | rfl
    · exact ne_of_isDigit digit rfl
    · exact separates.sign.2
  have plusless (written : Written) :
      ∀ c ∈ (written.minusChars ++ written.unsigned separator).head?, c ≠ '+' := by
    have bare : ∀ c ∈ (Written.chars separator { written with plus := false }).head?, c ≠ '+' :=
      head_chars_ne_plus separates rfl
    simpa [chars, minusChars, unsigned, body] using bare
  -- The signs go first; what is left is read as the same digits and the same power of ten.
  obtain ⟨-, same⟩ := eq_of_optional (plusless first) (plusless second) same
  obtain ⟨minus, same⟩ := eq_of_optional (signless first) (signless second) same
  have normal : first.normal = second.normal := by
    rw [← map_pointed_unsigned separates, ← map_pointed_unsigned separates, same]
  have numeral : first.numeral = second.numeral := by
    rw [← Option.some_inj, ← read?_normal, ← read?_normal, normal]
  rw [amount, amount, minus, ← amount_numeral, ← amount_numeral, numeral]

end Scriptlet.Decimal

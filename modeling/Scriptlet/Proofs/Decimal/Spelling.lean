import Mathlib.Data.List.TakeWhile
import Mathlib.Data.Option.Basic
import Scriptlet.Decimal.Numeral
import Scriptlet.Proofs.Outcome

/-!
How numbers are spelled, and that whatever is spelled so is read.

Main statements: digits with or without a sign are read as the integer that they spell if it is in
range, and every decimal numeral is read as some double, with any separator in place of the point.
-/

namespace Scriptlet.Decimal

/-- Whether characters are digits, one at least. -/
def Digits (chars : List Char) : Prop :=
  chars ≠ [] ∧ ∀ c ∈ chars, isDigit c = true

instance (chars : List Char) : Decidable (Digits chars) :=
  decidable_of_iff (chars ≠ [] ∧ chars.all isDigit = true) (by simp [Digits])

/-- The integer that characters spell: digits, perhaps behind a sign. -/
inductive Spells : List Char → Int → Prop where
  /-- Digits spell the number that they denote. -/
  | plain {digits : List Char} (run : Digits digits) : Spells digits (value digits)
  /-- A plus sign makes no difference. -/
  | plus {digits : List Char} (run : Digits digits) : Spells ('+' :: digits) (value digits)
  /-- A minus sign makes the number a negative one. -/
  | minus {digits : List Char} (run : Digits digits) : Spells ('-' :: digits) (-value digits)

/-- Whether an integer is one of 64 bits. -/
def InRange (n : Int) : Prop :=
  Int64.minValue.toInt ≤ n ∧ n ≤ Int64.maxValue.toInt

/-- A run of digits is read as its number, if that is within the limit. -/
theorem readSome_of_digits {digits : List Char} (run : Digits digits) {limit : Nat}
    (beyond : NumberFault) (within : value digits ≤ limit) :
    readSome limit beyond digits = .ok (value digits) := by
  -- A run is not empty, and its digits are read one by one.
  have filled : digits.isEmpty = false := by simpa using run.1
  rw [readSome, filled, if_neg Bool.false_ne_true]
  exact (readDigits_eq_ok_iff limit beyond 0 _ digits (Nat.zero_le _)).mpr ⟨run.2, rfl, within⟩

/-- Where digits start, there is no sign to be read. -/
theorem readInt64_of_digits {digits : List Char} (run : Digits digits) :
    readInt64 digits = (do
      let size ← readSome 0x7FFFFFFFFFFFFFFF .tooLarge digits
      return Int64.ofNat size) := by
  obtain ⟨filled, all⟩ := run
  cases digits with
  | nil => exact absurd rfl filled
  | cons c rest =>
    have digit := all c List.mem_cons_self
    unfold readInt64
    -- Neither sign is a digit, so that only the last case is left.
    split
    case h_1 same => cases same
    case h_2 same => cases same; cases digit
    case h_3 same => cases same; cases digit
    case h_4 => rfl

/-- What spells an integer in range is read as that integer. -/
theorem readInt64_of_spells {chars : List Char} {n : Int} (spells : Spells chars n)
    (range : InRange n) : readInt64 chars = .ok (Int64.ofInt n) := by
  -- The bounds of the range are used as numbers.
  obtain ⟨low, high⟩ : -0x8000000000000000 ≤ n ∧ n ≤ 0x7FFFFFFFFFFFFFFF := range
  cases spells with
  -- Without a sign the digits are all there is.
  | @plain digits run =>
    rw [readInt64_of_digits run, readSome_of_digits run _ (by omega), ok_bind, pure_eq_ok,
      Int64.ofInt_eq_ofNat]
  -- A plus sign is taken away, and nothing else changes.
  | @plus digits run =>
    change (readSome _ _ digits >>= _) = _
    rw [readSome_of_digits run _ (by omega), ok_bind, pure_eq_ok, Int64.ofInt_eq_ofNat]
  | @minus digits run =>
    -- The range reaches one further down than up.
    change (readSome _ _ digits >>= _) = _
    rw [readSome_of_digits run _ (by omega), ok_bind, pure_eq_ok]

/-- Digits that are read are a run of digits, and their number is within the limit. -/
theorem digits_of_readSome {limit size : Nat} {beyond : NumberFault} {digits : List Char}
    (read : readSome limit beyond digits = .ok size) :
    Digits digits ∧ value digits = size ∧ size ≤ limit := by
  -- What is empty is refused before anything is read.
  unfold readSome at read
  split at read
  · cases read
  case isFalse filled =>
    obtain ⟨all, same, within⟩ :=
      (readDigits_eq_ok_iff limit beyond 0 size digits (Nat.zero_le limit)).mp read
    exact ⟨⟨by simpa using filled, all⟩, same, within⟩

/-- What is read as an integer spells it, and is in range. -/
theorem spells_of_readInt64 {chars : List Char} {n : Int64} (read : readInt64 chars = .ok n) :
    ∃ spelled, Spells chars spelled ∧ InRange spelled ∧ n = .ofInt spelled := by
  have range {spelled : Int} (low : -0x8000000000000000 ≤ spelled)
      (high : spelled ≤ 0x7FFFFFFFFFFFFFFF) : InRange spelled := ⟨low, high⟩
  unfold readInt64 at read
  -- Behind a minus sign the limit lies one further out than anywhere else.
  split at read
  -- Without a character there is nothing to read.
  case h_1 => cases read
  case h_2 digits =>
    obtain ⟨size, here, same⟩ := bind_eq_ok.mp read
    obtain ⟨run, rfl, within⟩ := digits_of_readSome here
    cases same
    exact ⟨_, .minus run, range (by omega) (by omega), rfl⟩
  case h_3 digits =>
    obtain ⟨size, here, same⟩ := bind_eq_ok.mp read
    obtain ⟨run, rfl, within⟩ := digits_of_readSome here
    cases same
    exact ⟨_, .plus run, range (by omega) (by omega), Int64.ofInt_eq_ofNat.symm⟩
  case h_4 =>
    obtain ⟨size, here, same⟩ := bind_eq_ok.mp read
    obtain ⟨run, rfl, within⟩ := digits_of_readSome here
    cases same
    exact ⟨_, .plain run, range (by omega) (by omega), Int64.ofInt_eq_ofNat.symm⟩

/-- Whether characters are digits with at most one point among them, one digit at least. -/
inductive Mantissa : List Char → Prop where
  /-- There need not be a point. -/
  | whole {digits : List Char} (run : Digits digits) : Mantissa digits
  /-- Digits may stand on either side of a point. -/
  | pointed {before behind : List Char} (run : Digits (before ++ behind)) :
      Mantissa (before ++ '.' :: behind)

/-- Whether characters are a power of ten behind its mark, or nothing. -/
inductive Exponent : List Char → Prop where
  /-- There need not be a power of ten. -/
  | none : Exponent []
  /-- Digits stand behind the mark. -/
  | plain {digits : List Char} (run : Digits digits) : Exponent ('E' :: digits)
  /-- A sign may stand between the mark and the digits. -/
  | signed {sign : Char} {digits : List Char} (either : sign = '+' ∨ sign = '-')
      (run : Digits digits) : Exponent ('E' :: sign :: digits)

/-- Whether characters are a decimal numeral, perhaps behind a minus sign. -/
inductive IsNumeral : List Char → Prop where
  /-- A numeral is a mantissa and a power of ten. -/
  | unsigned {mantissa exponent : List Char} (front : Mantissa mantissa)
      (back : Exponent exponent) : IsNumeral (mantissa ++ exponent)
  /-- A minus sign may stand in front of it. -/
  | negative {mantissa exponent : List Char} (front : Mantissa mantissa)
      (back : Exponent exponent) : IsNumeral ('-' :: (mantissa ++ exponent))

/-- A character of a literal as it stands in a numeral, given what stands for the point. -/
def pointed (separator c : Char) : Char :=
  if c = separator then '.' else if c = 'e' then 'E' else c

/-- Whether characters are a real number with the given separator, perhaps behind a plus sign. -/
def IsReal (separator : Char) (chars : List Char) : Prop :=
  ∃ unsigned, (chars = '+' :: unsigned ∨ chars = unsigned ∧ chars.head? ≠ some '+') ∧
    ('.' ∈ unsigned → separator = '.') ∧ IsNumeral (unsigned.map (pointed separator))

/-- A literal is normalized by putting a point for the separator and capitals for the mark. -/
theorem normalize_eq_ok {separator : Char} {chars : List Char}
    (clear : '.' ∈ chars → separator = '.') :
    normalize separator chars = .ok (chars.map (pointed separator)) := by
  -- By induction on the characters, each of which is replaced by itself.
  induction chars with
  | nil => rfl
  | cons c rest ih =>
    have below := ih fun member => clear (List.mem_cons_of_mem c member)
    rw [normalize, below, List.map_cons]
    -- The separator becomes the point.
    by_cases point : c = separator
    · simp [point, pointed]
    · -- A point that does not separate would have been refused.
      have other : c ≠ '.' := by
        rintro rfl
        exact point (clear List.mem_cons_self).symm
      have raised : pointed separator c = raiseMark c := by simp [pointed, point, raiseMark]
      simp [point, other, raised]

/-- A digit is no other character. -/
theorem ne_of_isDigit {c d : Char} (digit : isDigit c = true) (other : isDigit d = false) :
    -- Being a digit would have to be true and false of it.
    c ≠ d := by
  rintro rfl
  rw [digit] at other
  cases other

/-- A mantissa holds no mark of a power of ten. -/
theorem Mantissa.ne_mark {chars : List Char} (mantissa : Mantissa chars) :
    ∀ c ∈ chars, c ≠ 'E' := by
  intro c member
  cases mantissa with
  | whole run => exact ne_of_isDigit (run.2 c member) rfl
  | @pointed before behind run =>
    -- The character is a digit in front of the point, the point, or a digit behind it.
    rcases List.mem_append.mp member with front | back
    · exact ne_of_isDigit (run.2 c (List.mem_append_left _ front)) rfl
    · rcases List.mem_cons.mp back with rfl | back
      · decide
      · exact ne_of_isDigit (run.2 c (List.mem_append_right _ back)) rfl

/-- A row of characters parts where the first stop is, if there is any. -/
theorem parted_at {stop : Char} {front : List Char} (free : ∀ c ∈ front, c ≠ stop)
    (back : List Char) (stops : ∀ c ∈ back.head?, c = stop) :
    (front ++ back).takeWhile (fun c => !(c == stop)) = front ∧
      (front ++ back).dropWhile (fun c => !(c == stop)) = back := by
  have passed : ∀ c ∈ front, (!(c == stop)) = true := by simpa using free
  rw [List.takeWhile_append_of_pos passed, List.dropWhile_append_of_pos passed]
  -- What is left is nothing, or it starts with the stop.
  cases back with
  | nil => simp
  | cons c rest =>
    have same : c = stop := stops c rfl
    simp [same]

/-- A numeral parts at its mark into the mantissa and the power of ten. -/
theorem parts_at_mark {mantissa exponent : List Char} (front : Mantissa mantissa)
    (back : Exponent exponent) :
    (mantissa ++ exponent).takeWhile (fun c => !(c == 'E')) = mantissa ∧
      (mantissa ++ exponent).dropWhile (fun c => !(c == 'E')) = exponent :=
  -- The power of ten starts with its mark, if there is one.
  parted_at front.ne_mark exponent (by cases back <;> simp)

/-- A mantissa parts at its point, and what is left are digits. -/
theorem digits_of_mantissa {chars : List Char} (mantissa : Mantissa chars) :
    Digits (chars.takeWhile (fun c => !(c == '.')) ++
      (chars.dropWhile fun c => !(c == '.')).drop 1) := by
  -- Digits are passed over in search of the point.
  have free {run : List Char} (all : ∀ c ∈ run, isDigit c = true) :
      ∀ c ∈ run, (!(c == '.')) = true := by
    intro c member
    simpa using ne_of_isDigit (all c member) rfl
  -- There is a point in the mantissa, or there is none.
  cases mantissa with
  | whole run =>
    have parted := List.takeWhile_eq_self_iff.mpr (free run.2)
    have rest := List.dropWhile_eq_nil_iff.mpr (free run.2)
    simpa [parted, rest] using run
  | @pointed before behind run =>
    have digits : ∀ c ∈ before, isDigit c = true :=
      fun c member => run.2 c (List.mem_append_left _ member)
    rw [List.takeWhile_append_of_pos (free digits), List.dropWhile_append_of_pos (free digits)]
    simpa using run

/-- A run of digits passes the tests for being filled and for being digits. -/
theorem Digits.passes {digits : List Char} (run : Digits digits) :
    digits.isEmpty = false ∧ digits.all isDigit = true :=
  ⟨by simpa using run.1, List.all_eq_true.mpr run.2⟩

/-- A power of ten is read from its digits, with or without a sign in front of them. -/
theorem readExponent?_isSome {digits : List Char} (run : Digits digits) :
    (readExponent? digits).isSome = true ∧ (readExponent? ('+' :: digits)).isSome = true ∧
      (readExponent? ('-' :: digits)).isSome = true := by
  -- Signs in front are taken away, and the digits behind them pass.
  obtain ⟨filled, all⟩ := run.passes
  refine ⟨?_, by simp [readExponent?, filled, all], by simp [readExponent?, filled, all]⟩
  cases digits with
  | nil => cases filled
  | cons c rest =>
    have digit := run.2 c List.mem_cons_self
    -- Neither sign is a digit, so that there is none to be taken away.
    have unsigned : c ≠ '-' ∧ c ≠ '+' := ⟨ne_of_isDigit digit rfl, ne_of_isDigit digit rfl⟩
    have bare : readExponent? (c :: rest) = some (value (c :: rest)) := by
      simpa [readExponent?, unsigned] using run.2
    rw [bare]
    rfl

/-- A numeral without a sign is read. -/
theorem read?_isSome {mantissa exponent : List Char} (front : Mantissa mantissa)
    (back : Exponent exponent) : (Numeral.read? (mantissa ++ exponent)).isSome = true := by
  obtain ⟨before, behind⟩ := parts_at_mark front back
  obtain ⟨filled, all⟩ := (digits_of_mantissa front).passes
  simp only [Numeral.read?, before, behind, filled, all]
  -- The mantissa passes; what is left is the power of ten.
  cases back with
  | none => rfl
  | plain run =>
    obtain ⟨power, read⟩ := Option.isSome_iff_exists.mp (readExponent?_isSome run).1
    simp [read, guard]
  | signed either run =>
    obtain ⟨-, plus, minus⟩ := readExponent?_isSome run
    rcases either with rfl | rfl
    · obtain ⟨power, read⟩ := Option.isSome_iff_exists.mp plus
      simp [read, guard]
    · obtain ⟨power, read⟩ := Option.isSome_iff_exists.mp minus
      simp [read, guard]

/-- A mantissa does not start with a sign. -/
theorem Mantissa.head_ne_minus {chars rest : List Char} (mantissa : Mantissa chars) :
    chars ≠ '-' :: rest := by
  -- Its first character would be a sign, but it is a digit or the point.
  rintro rfl
  generalize same : '-' :: rest = chars at mantissa
  cases mantissa with
  | whole run =>
    have digit := run.2 '-' (by simp [← same])
    cases digit
  | @pointed before behind run =>
    -- Nothing may stand in front of the point.
    cases before with
    | nil => simp at same
    | cons c before =>
      -- The first character would have to be a digit.
      have digit := run.2 c List.mem_cons_self
      cases same
      cases digit

/-- A numeral is read, whatever its sign. -/
theorem readSigned?_isSome {chars : List Char} (numeral : IsNumeral chars) :
    (readSigned? chars).isSome = true := by
  -- Only a numeral without a sign could be mistaken for one with a sign.
  cases numeral with
  | @unsigned mantissa exponent front back =>
    have read := read?_isSome front back
    unfold readSigned?
    split
    case h_2 => simpa using read
    case h_1 rest same =>
      -- No mantissa starts with a sign, so that this is no case.
      cases mantissa with
      | nil =>
        exfalso
        generalize none : ([] : List Char) = mantissa at front
        cases front with
        | whole run => exact run.1 none.symm
        | pointed => simp at none
      | cons c mantissa =>
        simp only [List.cons_append, List.cons.injEq] at same
        exact absurd (congrArg (· :: mantissa) same.1) front.head_ne_minus
  | negative front back =>
    have read := read?_isSome front back
    simpa [readSigned?] using read

/-- What is a real number is read as one. -/
theorem exists_readReal_of_isReal {separator : Char} {chars : List Char}
    (real : IsReal separator chars) : ∃ x, readReal separator chars = .ok x := by
  obtain ⟨unsigned, stripped, clear, numeral⟩ := real
  obtain ⟨x, read⟩ := Option.isSome_iff_exists.mp (readSigned?_isSome numeral)
  have normal := normalize_eq_ok clear
  refine ⟨x, ?_⟩
  -- The sign in front is taken away before the point is put in.
  rcases stripped with rfl | ⟨rfl, bare⟩
  · simp [readReal, normal, read]
  · unfold readReal
    -- There is no plus sign to be taken away.
    split
    case h_1 rest => simp at bare
    case h_2 => simp [normal, read]

end Scriptlet.Decimal

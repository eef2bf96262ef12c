import Scriptlet.Json.Reader
import Scriptlet.Proofs.Outcome

/-!
JSON texts as they are written are read back.

Main statement: the text of a value that holds no number is read as that value if the value nests
as deeply as the reader goes or less, and reading stops for its depth if the value nests deeper.
Numbers are left out because the same number can be written in more than one way.
-/

namespace Scriptlet.Json

/-! Quoted texts. -/

/-- A hexadecimal digit is read as the number that it was written for. -/
theorem hexValue?_hexDigit : ∀ digit < 16, hexValue? (hexDigit digit) = some digit := by
  decide

/-- A character below the first that may stand bare is spelled by two digits behind two zeros. -/
theorem readHex_control {c : Char} (low : c.toNat < 0x20) (rest : List Char) :
    readHex ('0' :: '0' :: hexDigit (c.toNat / 16) :: hexDigit (c.toNat % 16) :: rest) =
      .ok (c.toNat, rest) := by
  have zero : hexValue? '0' = some 0 := rfl
  have high := hexValue?_hexDigit (c.toNat / 16) (by omega)
  have unit := hexValue?_hexDigit (c.toNat % 16) (by omega)
  -- The two digits are quotient and remainder, so the number is put together from them again.
  have value : 4096 * 0 + 256 * 0 + 16 * (c.toNat / 16) + c.toNat % 16 = c.toNat := by omega
  simp only [readHex, zero, high, unit, value]

/-- However a character is written between quotes, one round reads it. -/
theorem readQuoted_escapeChar (rounds : Nat) (c : Char) (rest : List Char) :
    readQuoted (rounds + 1) (escapeChar c ++ rest) = (do
      let (text, rest) ← readQuoted rounds rest
      return (c :: text, rest)) := by
  unfold escapeChar
  repeat' split
  -- The escapes of one letter are read by looking at the letter.
  all_goals try (rename_i same; obtain rfl := eq_of_beq same; rfl)
  case isTrue low =>
    -- A control character is no half of a pair, so that nothing more is read after its digits.
    have spelled : readEscape
        ('u' :: '0' :: '0' :: hexDigit (c.toNat / 16) :: hexDigit (c.toNat % 16) :: rest) =
          .ok (c, rest) := by
      have bare : ¬(0xDC00 ≤ c.toNat ∧ c.toNat ≤ 0xDFFF) := by omega
      have first : ¬(0xD800 ≤ c.toNat ∧ c.toNat ≤ 0xDBFF) := by omega
      simp only [readEscape, readHex_control low, ok_bind]
      simp [bare, first]
    simp only [List.cons_append, List.nil_append, readQuoted, spelled, ok_bind]
    rfl
  case isFalse notQuote notBackslash _ _ _ _ _ notControl =>
    simp only [List.cons_append, List.nil_append, readQuoted, notQuote, notBackslash, notControl]
    rfl

/-- A text between quotes is read back if there is a round for each character and the quote. -/
theorem readQuoted_flatMap {rounds : Nat} {text : List Char} (room : text.length < rounds)
    (tail : List Char) :
    readQuoted rounds (text.flatMap escapeChar ++ '"' :: tail) = .ok (text, tail) := by
  induction text generalizing rounds with
  | nil =>
    -- The last round finds the quote.
    obtain ⟨rounds, rfl⟩ := Nat.exists_eq_add_of_lt room
    rfl
  | cons c text ih =>
    obtain ⟨rounds, rfl⟩ : ∃ left, rounds = left + 1 := ⟨rounds - 1, by omega⟩
    have below : text.length < rounds := by simpa using room
    rw [List.flatMap_cons, List.append_assoc, readQuoted_escapeChar, ih below]
    rfl

/-- A text is no longer than what it is written as. -/
theorem length_le_flatMap_escapeChar (text : List Char) :
    text.length ≤ (text.flatMap escapeChar).length := by
  -- By induction on the text.
  induction text with
  | nil => exact Nat.le_refl _
  | cons c text ih =>
    -- Whatever a character is written as, it is not written as nothing.
    have one : 1 ≤ (escapeChar c).length := by
      unfold escapeChar
      repeat' split
      all_goals simp
    simp only [List.flatMap_cons, List.length_append, List.length_cons]
    omega

/-- What stands between quotes, the last of them included, and what follows. -/
def unquotedBefore (text : String) (tail : List Char) : List Char :=
  text.toList.flatMap escapeChar ++ '"' :: tail

/-- A quoted text starts with its quote, and what is behind it follows. -/
theorem quote_append (text : String) (tail : List Char) :
    quote text ++ tail = '"' :: unquotedBefore text tail := by
  simp [quote, unquotedBefore]

/-- Behind its first quote, a quoted text is longer than the text and what follows. -/
theorem length_unquotedBefore (text : String) (tail : List Char) :
    text.toList.length + tail.length < (unquotedBefore text tail).length := by
  -- The last quote is the one character more.
  have escaped := length_le_flatMap_escapeChar text.toList
  simp only [unquotedBefore, List.length_append, List.length_cons]
  omega

/-- A quoted text is read back with as many rounds as there are characters. -/
theorem readString_unquotedBefore {rounds : Nat} {text : String} {tail : List Char}
    (room : (unquotedBefore text tail).length ≤ rounds) :
    readString rounds (unquotedBefore text tail) = .ok (text, tail) := by
  -- Each character of the text stands for at least one between the quotes.
  have longer := length_unquotedBefore text tail
  have enough : text.toList.length < rounds := by omega
  rw [readString, unquotedBefore, readQuoted_flatMap enough, ok_bind]
  simp

/-! Values. -/

mutual

/-- How deeply lists and objects are nested in a value. -/
def nesting : Json → Nat
  | null | boolean _ | number _ | string _ => 0
  | array items => itemNesting items + 1
  | object members => memberNesting members + 1

/-- How deeply lists and objects are nested in the items of a list. -/
def itemNesting : List Json → Nat
  | [] => 0
  | item :: rest => max item.nesting (itemNesting rest)

/-- How deeply lists and objects are nested in the members of an object. -/
def memberNesting : List (String × Json) → Nat
  | [] => 0
  | (_, value) :: rest => max value.nesting (memberNesting rest)

end

mutual

/-- Whether no number is in a value. -/
def numberless : Json → Bool
  | null | boolean _ | string _ => true
  | number _ => false
  | array items => itemsNumberless items
  | object members => membersNumberless members

/-- Whether no number is in the items of a list. -/
def itemsNumberless : List Json → Bool
  | [] => true
  | item :: rest => item.numberless && itemsNumberless rest

/-- Whether no number is in the members of an object. -/
def membersNumberless : List (String × Json) → Bool
  | [] => true
  | (_, value) :: rest => value.numberless && membersNumberless rest

end

/-- What follows an item of a list: nothing, or a comma and the next items. -/
def moreItemsBefore : List Json → List Char → List Char
  | [], tail => tail
  | item :: rest, tail => ',' :: itemCharsBefore (item :: rest) tail

/-- What follows a member of an object: nothing, or a comma and the next members. -/
def moreMembersBefore : List (String × Json) → List Char → List Char
  | [], tail => tail
  | member :: rest, tail => ',' :: memberCharsBefore (member :: rest) tail

/-- The first item of a list is written in front of whatever follows it. -/
theorem itemCharsBefore_cons (item : Json) (rest : List Json) (tail : List Char) :
    -- It makes no difference whether there is another item.
    itemCharsBefore (item :: rest) tail = item.charsBefore (moreItemsBefore rest tail) := by
  cases rest <;> rfl

/-- The first member of an object is its quoted name, a colon, its value and whatever follows. -/
theorem memberCharsBefore_cons (name : String) (value : Json) (rest : List (String × Json))
    (tail : List Char) :
    memberCharsBefore ((name, value) :: rest) tail =
      '"' :: unquotedBefore name (':' :: value.charsBefore (moreMembersBefore rest tail)) := by
  -- It makes no difference whether there is another member.
  cases rest <;> exact quote_append _ _

/-- Whether characters start with what neither is a gap nor closes a list. -/
def Starts (chars : List Char) : Prop :=
  ∃ c rest, chars = c :: rest ∧ isGap c = false ∧ c ≠ ']'

/-- What starts with anything but a gap has no gaps to be skipped. -/
theorem Starts.skipGaps {chars : List Char} (starts : Starts chars) :
    skipGaps chars = chars := by
  -- The first character ends the skipping at once.
  obtain ⟨c, rest, rfl, solid, -⟩ := starts
  simp [Json.skipGaps, solid]

/-- A value without numbers starts with a character that tells its kind. -/
theorem starts_charsBefore {value : Json} (plain : value.numberless = true) (tail : List Char) :
    Starts (value.charsBefore tail) := by
  -- Each kind of value has its own first character.
  cases value with
  | null => exact ⟨'n', _, rfl, rfl, by decide⟩
  | boolean value => cases value <;> exact ⟨_, _, rfl, rfl, by decide⟩
  | number text => exact absurd plain (by simp [numberless])
  | string text => exact ⟨'"', _, rfl, rfl, by decide⟩
  | array items => exact ⟨'[', _, rfl, rfl, by decide⟩
  | object members => exact ⟨'{', _, rfl, rfl, by decide⟩

/-! A text is never shorter than what follows in it. -/

/-- What follows an item is a comma longer than the items at most. -/
theorem length_moreItemsBefore_le (items : List Json) (tail : List Char) :
    (moreItemsBefore items tail).length ≤ (itemCharsBefore items tail).length + 1 := by
  -- Without items there is no comma.
  cases items with
  | nil => exact Nat.le_succ _
  | cons item rest => exact Nat.le_refl _

/-- What follows a member is a comma longer than the members at most. -/
theorem length_moreMembersBefore_le (members : List (String × Json)) (tail : List Char) :
    (moreMembersBefore members tail).length ≤ (memberCharsBefore members tail).length + 1 := by
  -- Without members there is no comma.
  cases members with
  | nil => exact Nat.le_succ _
  | cons member rest => exact Nat.le_refl _

mutual

/-- The text of a value is no shorter than what follows the value. -/
theorem length_le_charsBefore (tail : List Char) :
    (value : Json) → tail.length ≤ (value.charsBefore tail).length
  | null => Nat.le_add_right tail.length 4
  | boolean true => Nat.le_add_right tail.length 4
  | boolean false => Nat.le_add_right tail.length 5
  | number text | string text => by simp [charsBefore]
  | array items => by
    have inner := length_le_moreItemsBefore (']' :: tail) items
    have outer := length_moreItemsBefore_le items (']' :: tail)
    simp only [charsBefore, List.length_cons] at inner ⊢
    omega
  | object members => by
    have inner := length_le_moreMembersBefore ('}' :: tail) members
    have outer := length_moreMembersBefore_le members ('}' :: tail)
    simp only [charsBefore, List.length_cons] at inner ⊢
    omega

/-- The further items of a list are no shorter than what follows the list. -/
theorem length_le_moreItemsBefore (tail : List Char) :
    (items : List Json) → tail.length ≤ (moreItemsBefore items tail).length
  | [] => Nat.le_refl _
  | item :: rest => by
    have later := length_le_moreItemsBefore tail rest
    have first := length_le_charsBefore (moreItemsBefore rest tail) item
    rw [moreItemsBefore, itemCharsBefore_cons, List.length_cons]
    omega

/-- The further members of an object are no shorter than what follows the object. -/
theorem length_le_moreMembersBefore (tail : List Char) :
    (members : List (String × Json)) → tail.length ≤ (moreMembersBefore members tail).length
  | [] => Nat.le_refl _
  | (name, value) :: rest => by
    have later := length_le_moreMembersBefore tail rest
    have first := length_le_charsBefore (moreMembersBefore rest tail) value
    have named :=
      length_unquotedBefore name (':' :: value.charsBefore (moreMembersBefore rest tail))
    rw [moreMembersBefore, memberCharsBefore_cons, List.length_cons, List.length_cons]
    rw [List.length_cons] at named
    omega

end

/-! Reading. -/

/-- Whether reading ends with a value and what follows it, or stops for its depth if it must. -/
def ReadBack {α : Type} (nesting depth : Nat) (value : α) (tail : List Char)
    (reading : Except Stop (Reading α)) : Prop :=
  if nesting ≤ depth then reading = .ok (value, tail)
  else ∃ left, reading = .error ⟨.tooDeep, left⟩

/-- What nests nothing is read at any depth. -/
theorem ReadBack.done {α : Type} (depth : Nat) (value : α) (tail : List Char) :
    ReadBack 0 depth value tail (.ok (value, tail)) :=
  (if_pos (Nat.zero_le depth)).mpr rfl

/-- One part is read after another one, and a value is made of the two. -/
theorem ReadBack.bind {α β γ : Type} {first second depth : Nat} {value : α} {other : β}
    {middle tail : List Char} {reading : Except Stop (Reading α)}
    {next : Reading α → Except Stop (Reading β)} (front : ReadBack first depth value middle reading)
    (back : ReadBack second depth other tail (next (value, middle))) (join : α → β → γ) :
    ReadBack (max first second) depth (join value other) tail (do
      let found ← reading
      let (more, rest) ← next found
      return (join found.1 more, rest)) := by
  unfold ReadBack at front back ⊢
  -- The deeper part decides; if the first one is too deep, the second one is never read.
  by_cases shallow : first ≤ depth
  · rw [if_pos shallow] at front
    subst front
    by_cases flat : second ≤ depth
    · rw [if_pos flat] at back
      rw [if_pos (Nat.max_le.mpr ⟨shallow, flat⟩), ok_bind, back]
      rfl
    · rw [if_neg flat] at back
      obtain ⟨left, stopped⟩ := back
      rw [if_neg fun both => flat (Nat.max_le.mp both).2, ok_bind, stopped]
      exact ⟨left, rfl⟩
  · rw [if_neg shallow] at front
    obtain ⟨left, rfl⟩ := front
    rw [if_neg fun both => shallow (Nat.max_le.mp both).1]
    exact ⟨left, rfl⟩

/-- A value is made of what has been read. -/
theorem ReadBack.map {α β : Type} {nesting depth : Nat} {value : α} {tail : List Char}
    {reading : Except Stop (Reading α)} (read : ReadBack nesting depth value tail reading)
    (make : α → β) :
    ReadBack nesting depth (make value) tail (do
      let (found, rest) ← reading
      return (make found, rest)) := by
  -- The value is made only where something has been read.
  unfold ReadBack at read ⊢
  by_cases shallow : nesting ≤ depth
  · rw [if_pos shallow] at read ⊢
    rw [read]
    rfl
  · rw [if_neg shallow] at read ⊢
    obtain ⟨left, rfl⟩ := read
    exact ⟨left, rfl⟩

/-- What is read one level further down may be nested one level less deeply. -/
theorem ReadBack.deeper {α : Type} {nesting depth : Nat} {value : α} {tail : List Char}
    {reading : Except Stop (Reading α)} (read : ReadBack nesting depth value tail reading) :
    ReadBack (nesting + 1) (depth + 1) value tail reading := by
  -- One level more on both sides compares like before.
  simpa only [ReadBack, Nat.succ_le_succ_iff] using read

variable {rounds : Nat}

/-- Behind a comma, an item is read, and then what follows it. -/
theorem readMoreItems_comma (read : Reader Json) (more : Nat) {start : List Char}
    (starts : Starts start) :
    readMoreItems read (more + 1) (',' :: start) = (do
      let (item, rest) ← read start
      let (items, rest) ← readMoreItems read more rest
      return (item :: items, rest)) := by
  have comma : skipGaps (',' :: start) = ',' :: start := rfl
  rw [readMoreItems, comma]
  simp only [starts.skipGaps]
  -- The reader looks for the end of the text and for the end of the list, and finds neither.
  obtain ⟨c, rest, rfl, -, other⟩ := starts
  split
  case h_1 none => cases none
  case h_2 close => cases close; exact absurd rfl other
  case h_3 => rfl

/-- Behind the bracket of a list that holds items, the first of them is read. -/
theorem readItems_start (read : Reader Json) {start : List Char} (starts : Starts start) :
    readItems rounds read start = (do
      let (item, rest) ← read start
      let (items, rest) ← readMoreItems read rounds rest
      return (item :: items, rest)) := by
  -- The list is not closed at once, as an item starts there.
  rw [readItems, starts.skipGaps]
  obtain ⟨c, rest, rfl, -, other⟩ := starts
  split
  case h_1 none => cases none
  case h_2 close => cases close; exact absurd rfl other
  case h_3 => rfl

/-- A member is read from its name to the end of its value. -/
theorem readMember_unquotedBefore (read : Reader Json) {name : String} {start : List Char}
    (room : (unquotedBefore name (':' :: start)).length ≤ rounds) :
    readMember rounds read (unquotedBefore name (':' :: start)) = (do
      let (value, rest) ← read start
      return ((name, value), rest)) := by
  -- The name is read up to its quote, and then the colon is there.
  rw [readMember, readString_unquotedBefore room]
  rfl

/-- Behind a comma and a quote, a member is read, and then what follows it. -/
theorem readMoreMembers_comma (read : Reader Json) (more : Nat) (start : List Char) :
    readMoreMembers read (more + 1) (',' :: '"' :: start) = (do
      let (member, rest) ← readMember more read start
      let (members, rest) ← readMoreMembers read more rest
      return (member :: members, rest)) :=
  rfl

/-- Behind the brace and a quote, the first member is read, and then what follows it. -/
theorem readMembers_quote (read : Reader Json) (start : List Char) :
    readMembers rounds read ('"' :: start) = (do
      let (member, rest) ← readMember rounds read start
      let (members, rest) ← readMoreMembers read rounds rest
      return (member :: members, rest)) :=
  rfl

/-- A quoted text is read at any depth, for nothing is nested in it. -/
theorem readNested_quote {text : String} {tail : List Char}
    (room : (unquotedBefore text tail).length ≤ rounds) {depth : Nat} :
    readNested rounds depth ('"' :: unquotedBefore text tail) = .ok (string text, tail) := by
  have read := readString_unquotedBefore room
  -- Whether lists could be read at this depth is not asked.
  cases depth <;>
  · change (readString rounds (unquotedBefore text tail) >>= _) = _
    rw [read]
    rfl

/-- A list is read by reading its items one level further down, if there is such a level. -/
theorem readNested_bracket {items : List Json} {chars tail : List Char}
    (inner : ∀ depth, ReadBack (itemNesting items) depth items tail
      (readItems rounds (readNested rounds depth) chars)) (depth : Nat) :
    ReadBack (array items).nesting depth (array items) tail
      (readNested rounds depth ('[' :: chars)) := by
  cases depth with
  -- There is no level left for the items, not even for none of them.
  | zero => exact (if_neg (Nat.not_succ_le_zero _)).mpr ⟨_, rfl⟩
  | succ depth => exact ((inner depth).map array).deeper

/-- An object is read by reading its members one level further down, if there is such a level. -/
theorem readNested_brace {members : List (String × Json)} {chars tail : List Char}
    (inner : ∀ depth, ReadBack (memberNesting members) depth members tail
      (readMembers rounds (readNested rounds depth) chars)) (depth : Nat) :
    ReadBack (object members).nesting depth (object members) tail
      (readNested rounds depth ('{' :: chars)) := by
  -- Without a level there is no object either, and otherwise the members are read one level down.
  cases depth with
  | zero => exact (if_neg (Nat.not_succ_le_zero _)).mpr ⟨_, rfl⟩
  | succ depth => exact ((inner depth).map object).deeper

mutual

/-- The text of a value is read back, unless the value is nested too deeply for it. -/
theorem readNested_charsBefore (depth : Nat) (tail : List Char) :
    (value : Json) → value.numberless = true → (value.charsBefore tail).length ≤ rounds →
      ReadBack value.nesting depth value tail
        (readNested rounds depth (value.charsBefore tail))
  | null, _, _ => by cases depth <;> exact .done _ _ _
  | boolean true, _, _ => by cases depth <;> exact .done _ _ _
  | boolean false, _, _ => by cases depth <;> exact .done _ _ _
  | number _, plain, _ => absurd plain Bool.false_ne_true
  | string text, _, room => by
    rw [charsBefore, quote_append] at room ⊢
    rw [readNested_quote (Nat.le_of_succ_le room)]
    exact .done depth (string text) tail
  | array [], _, _ => by
    rw [charsBefore, itemCharsBefore]
    refine readNested_bracket (fun inner => ?_) depth
    exact .done inner [] tail
  | array (item :: rest), plain, room => by
    obtain ⟨first, later⟩ := Bool.and_eq_true_iff.mp plain
    -- There is room for what is behind the first item, for that is no longer than the whole.
    have shorter := length_le_charsBefore (moreItemsBefore rest (']' :: tail)) item
    rw [charsBefore, itemCharsBefore_cons] at room ⊢
    rw [List.length_cons] at room
    refine readNested_bracket (fun inner => ?_) depth
    rw [readItems_start _ (starts_charsBefore first _)]
    exact (readNested_charsBefore inner _ item first (by omega)).bind
      (readMoreItems_moreItemsBefore inner tail rest later (by omega) (Nat.le_refl _)) List.cons
  | object [], _, _ => by
    rw [charsBefore, memberCharsBefore]
    refine readNested_brace (fun inner => ?_) depth
    exact .done inner [] tail
  | object ((name, value) :: rest), plain, room => by
    obtain ⟨first, later⟩ := Bool.and_eq_true_iff.mp plain
    have shorter := length_le_charsBefore (moreMembersBefore rest ('}' :: tail)) value
    have named := length_unquotedBefore name
      (':' :: value.charsBefore (moreMembersBefore rest ('}' :: tail)))
    rw [charsBefore, memberCharsBefore_cons] at room ⊢
    simp only [List.length_cons] at room named
    -- The name is read in its quotes, and the value behind the colon as an item would be.
    refine readNested_brace (fun inner => ?_) depth
    rw [readMembers_quote, readMember_unquotedBefore _ (by omega)]
    exact ((readNested_charsBefore inner _ value first (by omega)).map (Prod.mk name)).bind
      (readMoreMembers_moreMembersBefore inner tail rest later (by omega) (Nat.le_refl _)) List.cons

/-- What follows an item of a list is read back. -/
theorem readMoreItems_moreItemsBefore (depth : Nat) (tail : List Char) :
    (items : List Json) → itemsNumberless items = true → {more : Nat} →
      (moreItemsBefore items (']' :: tail)).length ≤ more → more ≤ rounds →
      ReadBack (itemNesting items) depth items tail
        (readMoreItems (readNested rounds depth) more (moreItemsBefore items (']' :: tail)))
  | [], _, 0, room, _ => by simp [moreItemsBefore] at room
  | [], _, _ + 1, _, _ => .done _ _ _
  | item :: rest, _, 0, room, _ => by simp [moreItemsBefore] at room
  | item :: rest, plain, more + 1, room, within => by
    obtain ⟨first, later⟩ := Bool.and_eq_true_iff.mp plain
    have shorter := length_le_charsBefore (moreItemsBefore rest (']' :: tail)) item
    rw [moreItemsBefore, itemCharsBefore_cons] at room ⊢
    rw [List.length_cons] at room
    rw [readMoreItems_comma _ _ (starts_charsBefore first _)]
    exact (readNested_charsBefore depth _ item first (by omega)).bind
      (readMoreItems_moreItemsBefore depth tail rest later (by omega) (by omega)) List.cons

/-- What follows a member of an object is read back. -/
theorem readMoreMembers_moreMembersBefore (depth : Nat) (tail : List Char) :
    (members : List (String × Json)) → membersNumberless members = true → {more : Nat} →
      (moreMembersBefore members ('}' :: tail)).length ≤ more → more ≤ rounds →
      ReadBack (memberNesting members) depth members tail
        (readMoreMembers (readNested rounds depth) more
          (moreMembersBefore members ('}' :: tail)))
  | [], _, 0, room, _ => by simp [moreMembersBefore] at room
  | [], _, _ + 1, _, _ => .done _ _ _
  | member :: rest, _, 0, room, _ => by simp [moreMembersBefore] at room
  | (name, value) :: rest, plain, more + 1, room, within => by
    obtain ⟨first, later⟩ := Bool.and_eq_true_iff.mp plain
    have shorter := length_le_charsBefore (moreMembersBefore rest ('}' :: tail)) value
    have named := length_unquotedBefore name
      (':' :: value.charsBefore (moreMembersBefore rest ('}' :: tail)))
    rw [moreMembersBefore, memberCharsBefore_cons] at room ⊢
    simp only [List.length_cons] at room named
    rw [readMoreMembers_comma, readMember_unquotedBefore _ (by omega)]
    exact ((readNested_charsBefore depth _ value first (by omega)).map (Prod.mk name)).bind
      (readMoreMembers_moreMembersBefore depth tail rest later (by omega) (by omega)) List.cons

end

/-- A text that has been written is read back, unless its value is nested too deeply for it. -/
theorem readValue_text {value : Json} (plain : value.numberless = true) (depth : Nat) :
    ReadBack value.nesting depth value [] (readValue depth value.text.toList) := by
  -- There is a round for each character, and one more.
  rw [text, String.toList_ofList, readValue]
  exact readNested_charsBefore depth [] value plain (Nat.le_succ _)

/-- Values without numbers that are written in the same way are the same. -/
theorem text_injective {left right : Json} (plain : left.numberless = true)
    (plain' : right.numberless = true) (same : left.text = right.text) : left = right := by
  -- A reader that goes as deep as both of them finds either value in the one text.
  have first := readValue_text plain (max left.nesting right.nesting)
  have second := readValue_text plain' (max left.nesting right.nesting)
  rw [ReadBack, if_pos (Nat.le_max_left _ _)] at first
  rw [ReadBack, if_pos (Nat.le_max_right _ _), ← same, first] at second
  exact congrArg Prod.fst (Except.ok.inj second)

end Scriptlet.Json

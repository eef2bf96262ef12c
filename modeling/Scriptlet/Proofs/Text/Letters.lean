import Mathlib
import Scriptlet.Text

/-!
Texts that differ in the case of ASCII letters.

Main statements: they still differ in nothing else once they are trimmed, and not at all once they
are in capitals.
-/

namespace Scriptlet.Text

/-- Whether all characters of a text are those of ASCII. -/
def isAscii (text : String) : Bool :=
  text.toList.all (·.toNat < 0x80)

/-- What is no capital of ASCII stays as it is in small letters. -/
theorem toLower_cases (c : Char) :
    c.toLower = c ∨ 65 ≤ c.toNat ∧ c.toNat ≤ 90 ∧ c.toLower.toNat = c.toNat + 32 := by
  -- Only the capitals of ASCII have a small letter behind them.
  by_cases capital : c.isUpper = true
  · have bounds : 65 ≤ c.toNat ∧ c.toNat ≤ 90 := by
      simpa [Char.isUpper, UInt32.le_iff_toNat_le] using capital
    have valid : (c.toNat + 32).isValidChar := by
      left
      omega
    refine .inr ⟨bounds.1, bounds.2, ?_⟩
    rw [Char.toLower_eq_of_isUpper capital, Char.toNat_ofNat, if_pos valid]
  · exact .inl (Char.toLower_eq_of_not_isUpper capital)

/-- No letter is a blank, in either case. -/
theorem isBlank_toLower (c : Char) : isBlank c.toLower = isBlank c := by
  -- Neither a capital nor its small letter lies in one of the ranges.
  rcases toLower_cases c with same | ⟨lower, upper, small⟩
  · rw [same]
  · simp only [isBlank, blankRanges, List.any_cons, List.any_nil, small]
    grind

/-- Letters of ASCII have one capital in either case. -/
theorem uppercaseChar_toLower (c : Char) : uppercaseChar c.toLower = uppercaseChar c := by
  -- Both letters are those of ASCII, whose capitals are known.
  rcases toLower_cases c with same | ⟨lower, upper, small⟩
  · rw [same]
  · have ascii : c.toNat < 0x80 := by omega
    have ascii' : c.toLower.toNat < 0x80 := by omega
    rw [uppercaseChar, uppercaseChar, if_pos ascii, if_pos ascii', Char.toUpper_toLower_eq_toUpper]

/-- Trimming goes by blanks, and so not by the case of letters. -/
theorem trimChars_map_toLower (chars : List Char) :
    trimChars (chars.map Char.toLower) = (trimChars chars).map Char.toLower := by
  -- The predicate that trimming goes by is the same after the change.
  have blank : isBlank ∘ Char.toLower = isBlank := funext isBlank_toLower
  simp only [trimChars, List.dropWhile_map, blank, ← List.map_reverse]

/-- What is left of a text that is trimmed has been in it. -/
theorem mem_of_mem_trimChars {c : Char} {chars : List Char} (member : c ∈ trimChars chars) :
    c ∈ chars := by
  -- What is dropped is dropped from either end.
  have back := (List.dropWhile_suffix isBlank).mem (List.mem_reverse.mp member)
  exact (List.dropWhile_suffix isBlank).mem (List.mem_reverse.mp back)

/-- What is left of a text of ASCII is ASCII. -/
theorem isAscii_trim {text : String} (ascii : isAscii text = true) :
    isAscii (trim text) = true := by
  -- Each character that is left was in the text.
  simp only [isAscii, trim, String.toList_ofList, List.all_eq_true] at ascii ⊢
  exact fun c member => ascii c (mem_of_mem_trimChars member)

variable {left right : String}

/-- A letter of ASCII is one in either case. -/
theorem isAscii_congr (same : sameWord left right = true) : isAscii left = isAscii right := by
  -- Lowering the letters keeps every character within ASCII or outside of it.
  have lowered (text : String) :
      (text.toList.map Char.toLower).all (·.toNat < 0x80) = isAscii text := by
    rw [isAscii, List.all_map]
    refine List.all_congr rfl fun c => ?_
    rcases toLower_cases c with same | ⟨lower, upper, small⟩
    · simp only [Function.comp_apply, same]
    · simp only [Function.comp_apply, small, decide_eq_decide]
      omega
  simp only [sameWord, beq_iff_eq] at same
  rw [← lowered, same, lowered]

/-- Which words a text is does not hang on the case of its letters. -/
theorem sameWord_congr (same : sameWord left right = true) (word : String) :
    sameWord left word = sameWord right word := by
  -- Texts are compared in small letters, which are the same for both.
  simp only [sameWord, beq_iff_eq] at same ⊢
  rw [same]

/-- Texts that differ in the case of letters are both empty or neither is. -/
theorem isEmpty_congr (same : sameWord left right = true) : left.isEmpty = right.isEmpty := by
  -- There are as many small letters as letters.
  have lengths := congrArg List.isEmpty (beq_iff_eq.mp same)
  rw [List.isEmpty_map, List.isEmpty_map] at lengths
  rw [Bool.eq_iff_iff, String.isEmpty_iff, String.isEmpty_iff, ← String.toList_eq_nil_iff,
    ← String.toList_eq_nil_iff, ← List.isEmpty_iff, ← List.isEmpty_iff, lengths]

/-- Texts that differ in the case of letters do so once they are trimmed. -/
theorem trim_congr (same : sameWord left right = true) :
    sameWord (trim left) (trim right) = true := by
  -- Lowering goes through trimming, so that both are trimmed as one text.
  simp only [sameWord, beq_iff_eq] at same ⊢
  simp only [trim, String.toList_ofList, ← trimChars_map_toLower, same]

/-- Texts that differ in the case of letters are the same in capitals. -/
theorem uppercase_congr (same : sameWord left right = true) : uppercase left = uppercase right := by
  -- A text can be lowered before it is put into capitals.
  have lowered (text : String) :
      (text.toList.map Char.toLower).flatMap uppercaseChar = text.toList.flatMap uppercaseChar := by
    simp only [List.flatMap_map, uppercaseChar_toLower]
  simp only [sameWord, beq_iff_eq] at same
  rw [uppercase, uppercase, ← lowered, same, lowered]

end Scriptlet.Text

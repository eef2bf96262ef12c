import Scriptlet.Proofs.Text.Letters
import Scriptlet.Proofs.Text.Uppercase

/-!
Blanks in a text that is put into capitals.

Main statement: blanks stay what they are, and nothing else becomes one, so that a text is trimmed
alike before and after.
-/

namespace Scriptlet.Text

/-- The code points of all blanks. -/
def blankPoints : List Nat :=
  blankRanges.flatMap fun (first, last) => List.range' first (last + 1 - first)

variable {c d : Char}

/-- The code point of a blank is one of those of all blanks. -/
theorem mem_blankPoints (blank : isBlank c = true) : c.toNat ∈ blankPoints := by
  -- A blank lies in one of the ranges, which are listed point by point.
  simp only [isBlank, List.any_eq_true, Bool.and_eq_true, decide_eq_true_eq] at blank
  obtain ⟨range, listed, lower, upper⟩ := blank
  refine List.mem_flatMap.mpr ⟨range, listed, List.mem_range'_1.mpr ⟨lower, ?_⟩⟩
  omega

/-- A blank is no letter, and has no capital of its own. -/
theorem uppercaseChar_of_isBlank (blank : isBlank c = true) :
    isLowercase c = false ∧ uppercaseChar c = [c] := by
  -- There are few blanks, and each of them is looked at.
  have each : ∀ point ∈ blankPoints, isLowercase (Char.ofNat point) = false ∧
      uppercaseChar (Char.ofNat point) = [Char.ofNat point] := by
    decide +kernel
  simpa using each c.toNat (mem_blankPoints blank)

/-- No letter is a blank, in capitals as in small letters. -/
theorem isBlank_toUpper (c : Char) : isBlank c.toUpper = isBlank c := by
  -- In small letters both are the same character.
  rw [← isBlank_toLower, Char.toLower_toUpper_eq_toLower, isBlank_toLower]

/-- No run of small letters is moved to where the blanks are. -/
theorem uppercaseStrides_solid : ∀ entry ∈ uppercaseStrides, ∀ range ∈ blankRanges,
    (entry.1.last + entry.2).toNat < range.1 ∨ range.2 < (entry.1.first + entry.2).toNat := by
  decide +kernel

/-- No character that becomes several becomes a blank. -/
theorem uppercaseExpansions_solid : ∀ entry ∈ uppercaseExpansions, ∀ point ∈ entry.2,
    isBlank (Char.ofNat point) = false := by
  decide +kernel

/-- A code point outside the ranges of blanks is that of no blank. -/
theorem isBlank_ofNat {point : Nat}
    (apart : ∀ range ∈ blankRanges, point < range.1 ∨ range.2 < point) :
    isBlank (Char.ofNat point) = false := by
  -- Some code points are those of no characters.
  by_cases valid : point.isValidChar
  · have same : (Char.ofNat point).toNat = point := by rw [Char.toNat_ofNat, if_pos valid]
    rw [isBlank, List.any_eq_false, same]
    intro range listed inside
    simp only [Bool.and_eq_true, decide_eq_true_eq] at inside
    have := apart range listed
    omega
  · -- What is the code point of no character stands for the first one of all.
    rw [Char.ofNat, dif_neg valid]
    rfl

/-- Nothing but a blank becomes one in capitals. -/
theorem isBlank_of_mem_uppercaseChar (solid : isBlank c = false) (member : d ∈ uppercaseChar c) :
    isBlank d = false := by
  unfold uppercaseChar uppercaseWide at member
  -- Beyond ASCII a character has several capitals, or one that is moved to, or it stays.
  split at member
  · rw [List.mem_singleton.mp member, isBlank_toUpper, solid]
  · split at member
    case h_1 points found =>
      obtain ⟨front, back, split, -⟩ := List.lookup_eq_some_iff.mp found
      obtain ⟨point, listed, rfl⟩ := List.mem_map.mp member
      exact uppercaseExpansions_solid (c.toNat, points) (by simp [split]) point listed
    case h_2 =>
      split at member
      case h_1 run shift found =>
        have bounds := Stride.bounds_of_holds (by simpa using List.find?_some found)
        rw [List.mem_singleton.mp member]
        refine isBlank_ofNat fun range listed => ?_
        have apart := uppercaseStrides_solid _ (List.mem_of_find?_eq_some found) range listed
        simp only at apart
        omega
      case h_2 => rw [List.mem_singleton.mp member, solid]

/-! Trimming. -/

/-- Whether a change of characters leaves blanks as they are, and makes none. -/
structure KeepsBlanks (change : Char → List Char) : Prop where
  /-- Blanks are not changed. -/
  blank (c : Char) (blank : isBlank c = true) : change c = [c]
  /-- No other character vanishes. -/
  filled (c : Char) (solid : isBlank c = false) : change c ≠ []
  /-- No other character becomes a blank. -/
  solid (c : Char) (solid : isBlank c = false) : ∀ d ∈ change c, isBlank d = false

variable {change : Char → List Char}

/-- Blanks are kept as well if what a character becomes is turned round. -/
theorem KeepsBlanks.reverse (keeps : KeepsBlanks change) :
    KeepsBlanks (List.reverse ∘ change) where
  blank c blank := by simp [keeps.blank c blank]
  filled c solid := by simpa using keeps.filled c solid
  solid c solid d member := keeps.solid c solid d (List.mem_reverse.mp member)

/-- The blanks in front can be dropped before or after a change that keeps blanks. -/
theorem KeepsBlanks.dropWhile_flatMap (keeps : KeepsBlanks change) (chars : List Char) :
    (chars.flatMap change).dropWhile isBlank = (chars.dropWhile isBlank).flatMap change := by
  -- By induction on the characters, up to the first one that is no blank.
  induction chars with
  | nil => rfl
  | cons c rest ih =>
    cases blank : isBlank c with
    | true => simp [keeps.blank c blank, blank, ih]
    | false =>
      -- What is made of the character starts with something that is no blank either.
      obtain ⟨d, tail, same⟩ := List.exists_cons_of_ne_nil (keeps.filled c blank)
      have solid : isBlank d = false := keeps.solid c blank d (same ▸ List.mem_cons_self)
      simp [same, blank, solid]

/-- A change that keeps blanks can as well be made once they are trimmed off. -/
theorem KeepsBlanks.trimChars_flatMap (keeps : KeepsBlanks change) (chars : List Char) :
    trimChars (chars.flatMap change) = (trimChars chars).flatMap change := by
  -- Read from behind, what a character becomes stands the other way round.
  rw [trimChars, trimChars, keeps.dropWhile_flatMap, List.reverse_flatMap,
    keeps.reverse.dropWhile_flatMap, List.reverse_flatMap]
  simp only [Function.comp_def, List.reverse_reverse]

/-- To put a character into capitals keeps blanks. -/
theorem keepsBlanks_uppercaseChar : KeepsBlanks uppercaseChar where
  blank _ blank := (uppercaseChar_of_isBlank blank).2
  filled c _ := uppercaseChar_ne_nil c
  solid _ solid _ member := isBlank_of_mem_uppercaseChar solid member

/-- A text can be trimmed before or after it is put into capitals. -/
theorem trim_uppercase (text : String) : trim (uppercase text) = uppercase (trim text) := by
  -- A text is put into capitals character by character.
  simp only [trim, uppercase, String.toList_ofList, keepsBlanks_uppercaseChar.trimChars_flatMap]

/-- No small letter is trimmed off a text. -/
theorem any_isLowercase_trim (text : String) :
    (trim text).toList.any isLowercase = text.toList.any isLowercase := by
  -- Any small letter of the one is a small letter of the other.
  rw [Bool.eq_iff_iff, List.any_eq_true, List.any_eq_true, trim, String.toList_ofList]
  refine exists_congr fun c => and_congr_left fun small => ⟨mem_of_mem_trimChars, fun member => ?_⟩
  -- A small letter is no blank, and so it is kept.
  refine mem_trimChars member (Bool.eq_false_iff.mpr fun blank => ?_)
  rw [(uppercaseChar_of_isBlank blank).1] at small
  cases small

end Scriptlet.Text

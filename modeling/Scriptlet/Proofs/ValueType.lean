import Scriptlet.Proofs.Build.Leaf
import Scriptlet.Proofs.Text.Blank

/-!
Spellings of types, and what becomes of them in a name.

Main statement: the name that a text spells stands for the same type as the text, unless the text is
the sign of functions. That sign is a small letter, and its capital is the sign of no type.
-/

namespace Scriptlet

namespace Name

/-- The name of a text is trimmed like the text. -/
theorem trim_canonical (text : String) :
    Text.trim (canonical text) = canonical (Text.trim text) := by
  -- It is put into capitals if it has small letters, none of which is trimmed off.
  unfold canonical
  rw [Text.any_isLowercase_trim]
  split
  · exact Text.trim_uppercase text
  · rfl

/-- A word of ASCII is the same word in its name. -/
theorem sameWord_canonical {text : String} (ascii : Text.isAscii text = true) (word : String) :
    Text.sameWord (canonical text) word = Text.sameWord text word := by
  -- The name is the text itself, or the text in capitals.
  unfold canonical
  split
  case isFalse => rfl
  case isTrue =>
    -- The capital of a character of ASCII is one character, with the same small letter.
    have lowered : text.toList.flatMap (fun c => (Text.uppercaseChar c).map Char.toLower) =
        text.toList.map Char.toLower := by
      rw [List.map_eq_flatMap]
      refine List.flatMap_congr fun c member => ?_
      have small : c.toNat < 0x80 := by simpa using List.all_eq_true.mp ascii c member
      simp [Text.uppercaseChar, small]
    simp only [Text.sameWord, Text.uppercase, String.toList_ofList, List.map_flatMap, lowered]

end Name

namespace ValueType

variable {type : ValueType} {text : String}

/-- What names a type still names it in its canonical spelling, but for the sign of functions. -/
theorem namedBy_canonical (named : type.NamedBy text) (other : Text.trim text ≠ "λ") :
    type.NamedBy (Name.canonical text) := by
  -- It is named by its sign or by its word.
  unfold NamedBy Text.Spelled at named ⊢
  rw [Name.trim_canonical]
  generalize Text.trim text = word at named other
  rcases named with sign | spelled
  · left
    rw [sign]
    -- The three signs that are left are capitals.
    cases type <;> cases sign <;> first | exact absurd rfl other | decide +kernel
  · right
    have ascii : Text.isAscii word = true := by
      rw [Text.isAscii_congr spelled]
      cases type <;> decide
    rw [Name.sameWord_canonical ascii, spelled]

/-- The capital of the sign of functions stands for no type. -/
theorem ofName?_canonical_sign (sign : Text.trim text = "λ") :
    ofName? (Name.canonical text) = none := by
  -- The sign is put into capitals, and no type has that for a sign or a word.
  rw [ofName?, Name.trim_canonical, sign]
  decide +kernel

/-- The name of a text stands for the type that the text names, but for the sign of functions. -/
theorem ofName?_canonical (spelled : ofName? text = some type) :
    ofName? (Name.canonical text) = if Text.trim text = "λ" then none else some type := by
  -- The sign is an exception; every other spelling names the type still.
  split
  case isTrue sign => exact ofName?_canonical_sign sign
  case isFalse other =>
    exact ofName?_eq_some_iff.mpr (namedBy_canonical (ofName?_eq_some_iff.mp spelled) other)

end ValueType

end Scriptlet

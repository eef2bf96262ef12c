import Scriptlet.Command.Options
import Scriptlet.Proofs.Build.Token

/-!
What a binding says.

Main statement: the text behind the sign of a binding means what it would mean as a token of a
script, under the first rule for constants that takes it, so that every binding with a name is read.
-/

namespace Scriptlet

/-- A constant as the host has it. -/
def HostValue.ofLiteral : Literal → HostValue
  | .integer value => .integer value
  | .real value => .real value
  | .string value => .string value
  | .boolean value => .boolean value

/-- A constant comes back from the host as the value that it has in a script. -/
theorem Value.ofHost_ofLiteral (literal : Literal) :
    ofHost literal.type (.ofLiteral literal) = .ok (.ofLiteral literal) := by
  -- There are four kinds of constants.
  cases literal <;> rfl

namespace Build

/-- The rules for constants; any text is taken by the last one. -/
def constantRules : List Rule :=
  [.integer, .real, .boolean, .string]

/-- The leaf that a text is under the first rule for constants that takes it. -/
def firstConstant? (separator : Char) (text : String) : Option Expr :=
  constantRules.findSome? fun rule => (leaf separator rule text).toOption

/-- The constant that a text spells. -/
def StandsFor (separator : Char) (text : String) (literal : Literal) : Prop :=
  ∃ token, firstConstant? separator text = some (.literal token literal)

end Build

namespace Command

open Build

/-- A constant of a binding is read as the leaf that it is under the first rule that takes it. -/
theorem exists_readConstant (separator : Char) (text : String) :
    ∃ literal, StandsFor separator text literal ∧
      readConstant separator text = (literal.type, .ofLiteral literal) := by
  simp only [StandsFor, firstConstant?, constantRules, List.findSome?_cons, leaf, integerLeaf,
    realLeaf, booleanLeaf, stringLeaf, readConstant]
  -- A rule is tried where those before it fail, in the same order on both sides.
  cases readInteger text with
  | ok n => exact ⟨.integer n, ⟨text, rfl⟩, rfl⟩
  | error _ =>
    cases readReal separator text with
    | ok x => exact ⟨.real x, ⟨text, rfl⟩, rfl⟩
    | error _ =>
      cases truthOf? (Text.uppercase (Text.trim text)) with
      | some truth => exact ⟨.boolean truth, ⟨Text.uppercase (Text.trim text), rfl⟩, rfl⟩
      | none => exact ⟨.string (unquoted text), ⟨unquoted text, rfl⟩, rfl⟩

/-- A binding is parted at its first sign, and is read if there is a name in front of it. -/
theorem readBinding_apart (separator : Char) {name : String} (unsigned : '=' ∉ name.toList)
    (constant : String) :
    readBinding separator (name ++ "=" ++ constant) =
      if (Text.trim name).isEmpty then .error (.bindingUnnamed (name ++ "=" ++ constant))
      else .ok ⟨Text.trim name, (readConstant separator constant).1,
        (readConstant separator constant).2⟩ := by
  -- The name holds no sign, so that the first sign is the one behind it.
  have free : ∀ c ∈ name.toList, c ≠ '=' := fun c member same => unsigned (same ▸ member)
  obtain ⟨front, back⟩ := Decimal.parted_at free ('=' :: constant.toList) (by simp)
  have whole : (name ++ "=" ++ constant).toList = name.toList ++ '=' :: constant.toList := by
    simp
  have empty : (Text.trim name).isEmpty = (Text.trimChars name.toList).isEmpty := by
    rw [Bool.eq_iff_iff]
    simp [Text.trim]
  -- Blanks around the name go before it is asked whether there is one.
  simp only [readBinding, whole, front, back, String.ofList_toList, empty]
  split
  case h_1 blank => rw [blank, List.isEmpty_nil, if_pos rfl]
  case h_2 filled =>
    rw [if_neg (by simpa using filled)]
    rfl

/-- What says something as a binding has a name, a sign and a constant. -/
theorem exists_of_readBinding {separator : Char} {text : String} {binding : Binding}
    (read : readBinding separator text = .ok binding) :
    ∃ name constant literal, text = name ++ "=" ++ constant ∧ '=' ∉ name.toList ∧
      StandsFor separator constant literal ∧
      binding = ⟨Text.trim name, literal.type, .ofLiteral literal⟩ := by
  have parts := List.takeWhile_append_dropWhile (p := fun c => !(c == '=')) (l := text.toList)
  have unsigned : '=' ∉ text.toList.takeWhile fun c => !(c == '=') := fun member => by
    simpa using List.mem_takeWhile_imp member
  -- The text is parted at its first sign, if it has one.
  cases behind : text.toList.dropWhile fun c => !(c == '=') with
  | nil =>
    -- There is no sign at all.
    simp [readBinding, behind] at read
  | cons sign constant =>
    -- What has been passed over in search of the sign is the name.
    have same : sign = '=' := by
      have first := List.head?_dropWhile_not (fun c => !(c == '=')) text.toList
      simpa [behind] using first
    subst same
    let name := String.ofList (text.toList.takeWhile fun c => !(c == '='))
    have whole : text = name ++ "=" ++ String.ofList constant := by
      apply String.ext
      rw [← parts, behind]
      simp [name]
    have plain : '=' ∉ name.toList := by simpa [name] using unsigned
    obtain ⟨literal, stands, reads⟩ := exists_readConstant separator (String.ofList constant)
    rw [whole, readBinding_apart separator plain, reads] at read
    -- With a name the binding is what has been read; without one it would have been refused.
    split at read
    · cases read
    · exact ⟨name, _, literal, whole, plain, stands, (Except.ok.inj read).symm⟩

/--
A binding with a name is always read, and like a token of a script.

Its type and its value are those of the first of four leaves that succeeds: the text behind the
first sign as a whole number, as a real number, as a truth value and as a text, with the same
decimal separator. Its name is what stands in front of the sign, trimmed.
-/
theorem readBinding_eq (separator : Char) (name constant : String)
    (named : ∃ c ∈ name.toList, Text.isBlank c = false) (unsigned : '=' ∉ name.toList) :
    ∃ token literal, firstConstant? separator constant = some (.literal token literal) ∧
      readBinding separator (name ++ "=" ++ constant) =
        .ok ⟨Text.trim name, literal.type, .ofLiteral literal⟩ := by
  obtain ⟨c, member, visible⟩ := named
  obtain ⟨literal, ⟨token, first⟩, reads⟩ := exists_readConstant separator constant
  refine ⟨token, literal, first, ?_⟩
  -- Something of the name is left when it is trimmed, so that nothing is in the way.
  rw [readBinding_apart separator unsigned, Text.trim_ne_empty member visible, reads]
  rfl

/-- The sign of a binding may stand in its constant again, here between quotes. -/
theorem readBinding_eq_quotedSign :
    (∃ c ∈ " rate ".toList, Text.isBlank c = false) ∧ '=' ∉ " rate ".toList ∧
      readBinding ',' " rate =\"1=1,0\"" = .ok ⟨"rate", .string, .string "1=1,0"⟩ := by
  -- The name is trimmed, and the quoted sign is the second one of the text.
  have named : ∃ c ∈ " rate ".toList, Text.isBlank c = false := ⟨'r', by decide, by decide⟩
  have unsigned : '=' ∉ " rate ".toList := by decide
  obtain ⟨token, literal, first, read⟩ := readBinding_eq ',' " rate " "\"1=1,0\"" named unsigned
  have quoted : firstConstant? ',' "\"1=1,0\"" = some (.literal "1=1,0" (.string "1=1,0")) := by
    decide +kernel
  cases first.symm.trans quoted
  exact ⟨named, unsigned, read⟩

end Command

end Scriptlet

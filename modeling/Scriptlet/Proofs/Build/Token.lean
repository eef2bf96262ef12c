import Mathlib.Data.List.Forall2
import Mathlib.Data.List.TakeWhile
import Scriptlet.Build.Assembly
import Scriptlet.Build.Leaf
import Scriptlet.Proofs.Decimal.Spelling
import Scriptlet.Proofs.Outcome

/-!
The tokens of the grammar, and that each is read as what it spells.

Main statements: an operator is read in any mixture of small letters and capitals, and a valid text
of a leaf is always read.
-/

namespace Scriptlet

namespace Text

/-- Whether a text spells a word of the grammar: blanks around it do not matter, nor do capitals. -/
def Spelled (word text : String) : Prop :=
  sameWord (trim text) word = true

instance (word text : String) : Decidable (Spelled word text) :=
  inferInstanceAs (Decidable (sameWord (trim text) word = true))

/-- What does not become a small letter does not change. -/
theorem eq_of_toLower {c : Char} (sign : c.toLower.isLower = false) : c.toLower = c := by
  -- The character has been changed, or it is what it was.
  unfold Char.toLower at sign ⊢
  split
  case isFalse => rfl
  case isTrue capital =>
    -- A capital would have become a small letter.
    simp only [dif_pos capital] at sign
    change (decide (_ ≥ _) && decide (_ ≤ _)) = false at sign
    simp [UInt32.le_iff_toNat_le, UInt32.toNat_add] at sign capital
    omega

/-- A text that differs from a row of signs in the case of letters at most does not differ. -/
theorem eq_of_map_toLower {text signs : List Char}
    (same : text.map Char.toLower = signs.map Char.toLower)
    (none : ∀ c ∈ signs, c.toLower.isLower = false) : text = signs := by
  -- Character by character; both rows are of one length.
  induction signs generalizing text with
  | nil => simpa using same
  | cons sign signs ih =>
    cases text with
    | nil => cases same
    | cons c text =>
      simp only [List.map_cons, List.cons.injEq] at same
      have first := none sign List.mem_cons_self
      -- Neither character is changed on the way to small letters, so they are one.
      have changed := eq_of_toLower (same.1 ▸ first)
      rw [← changed, same.1, eq_of_toLower first,
        ih same.2 fun c member => none c (List.mem_cons_of_mem sign member)]

/-- It does not matter which of two words is compared with which. -/
theorem sameWord_comm (left right : String) : sameWord left right = sameWord right left := by
  rw [Bool.eq_iff_iff, sameWord_iff, sameWord_iff, eq_comm]

/-- A text with a character that is not blank is not empty once it is trimmed. -/
theorem trim_ne_empty {text : String} {c : Char} (member : c ∈ text.toList)
    -- The character survives the trimming, as only blanks are taken away.
    (visible : isBlank c = false) : (trim text).isEmpty = false := by
  have kept : c ∈ (trim text).toList := by
    rw [trim, String.toList_ofList]
    exact mem_trimChars member visible
  rw [Bool.eq_false_iff]
  intro empty
  rw [String.isEmpty_iff.mp empty] at kept
  cases kept

end Text

namespace Operation

/-- Which operator a word is does not hang on the case of its letters. -/
theorem ofOperator?_congr {text word : String} (same : Text.sameWord text word = true) :
    ofOperator? text = ofOperator? word := by
  have equal : text.toList.map Char.toLower = word.toList.map Char.toLower := by
    simpa [Text.sameWord] using same
  -- Operators made of signs have no letters, so that they are spelled in one way only.
  have plain : ∀ operation ∈ signs,
      operation.spelling.toList.all (fun c => !c.toLower.isLower) = true := by
    decide
  have sign : ∀ operation ∈ signs,
      (operation.spelling == text) = (operation.spelling == word) := by
    intro operation member
    have none : ∀ c ∈ operation.spelling.toList, c.toLower.isLower = false := by
      simpa using plain operation member
    rw [Bool.eq_iff_iff, beq_iff_eq, beq_iff_eq]
    constructor
    · rintro rfl
      exact (String.ext (Text.eq_of_map_toLower equal.symm none)).symm
    · rintro rfl
      exact (String.ext (Text.eq_of_map_toLower equal none)).symm
  -- Operators made of letters are compared in small letters anyway.
  have letters : ∀ operation ∈ words,
      Text.sameWord operation.spelling text = Text.sameWord operation.spelling word := by
    intro operation _
    simp only [Text.sameWord, equal]
  simp only [ofOperator?, ← List.head?_filter, List.filter_congr sign, List.filter_congr letters]

end Operation

namespace Build

open Decimal Text

/-- The operators that may stand in a chain of a rule. -/
def operators : Rule → List String
  | .disjunction => ["or"]
  | .conjunction => ["and"]
  | .relation => ["=", "<>", ">", "<", ">=", "<=", "=~", "in"]
  | .sum => ["+", "-"]
  | .product => ["*", "/"]
  | .power => ["^"]
  | _ => []

/-- Whether a text is an operator that may stand in a chain of a rule. -/
def IsOperator (rule : Rule) (text : String) : Prop :=
  ∃ word ∈ operators rule, Spelled word text

instance (rule : Rule) (text : String) : Decidable (IsOperator rule text) :=
  inferInstanceAs (Decidable (∃ word ∈ operators rule, Spelled word text))

/-- What spells a word is read as the operator that the word is. -/
theorem chainOperation_of_spelled {rule : Rule} {word text : String} {operation : Operation}
    (spelled : Spelled word text) (reads : Operation.ofOperator? word = some operation)
    (allowed : allows rule operation = true) : chainOperation rule text = .ok operation := by
  -- The word is looked up, and what is found is allowed.
  rw [chainOperation, Operation.ofOperator?_congr spelled, reads]
  exact if_pos allowed

/-- Every operator that may stand in a chain is read. -/
theorem exists_chainOperation {rule : Rule} {text : String} (operator : IsOperator rule text) :
    ∃ operation, chainOperation rule text = .ok operation := by
  -- Each word of the table is an operator, and one that the rule allows.
  have known : ∀ word ∈ operators rule, ∃ operation,
      Operation.ofOperator? word = some operation ∧ allows rule operation = true := by
    intro word member
    have found : (Operation.ofOperator? word).any (allows rule) = true := by
      revert word
      cases rule <;> decide
    simpa [Option.any_eq_true] using found
  obtain ⟨word, member, spelled⟩ := operator
  obtain ⟨operation, reads, allowed⟩ := known word member
  exact ⟨operation, chainOperation_of_spelled spelled reads allowed⟩

/-- Operators in a row, each with its operand behind it. -/
def linked (links : List (String × Tree)) : List Tree :=
  links.flatMap fun link => [.terminal link.1, link.2]

/-- Behind an operand, operators and operands in turn are told apart. -/
theorem chainFrom_linked {rule : Rule} {links : List (String × Tree)} {operations : List Operation}
    (operators : List.Forall₂ (fun link operation => chainOperation rule link.1 = .ok operation)
      links operations)
    (nodes : ∀ link ∈ links, link.2.isNode = true) {position : Nat} (odd : position % 2 = 1) :
    -- By induction on the links, from one odd position to the next.
    chainFrom rule position (linked links) = .ok (links.map Prod.snd, operations) := by
  induction operators generalizing position with
  | nil => rfl
  | @cons link operation links operations read others ih =>
    obtain ⟨text, operand⟩ := link
    rw [List.forall_mem_cons] at nodes
    have further : (position + 1 + 1) % 2 = 1 := by omega
    have rest := ih nodes.2 further
    -- The operator stands at an odd position, and its operand at the even one behind it.
    cases operand with
    | terminal other => cases nodes.1
    | node inner children =>
      have even : (position + 1) % 2 = 0 := by omega
      simp only [linked, List.flatMap_cons, List.cons_append, List.nil_append] at rest ⊢
      simp [chainFrom, odd, even, read, rest]

/-- A first operand and operators with operands behind it are a chain. -/
theorem chain_linked {rule : Rule} {first : Tree} {links : List (String × Tree)}
    {operations : List Operation} (node : first.isNode = true)
    (operators : List.Forall₂ (fun link operation => chainOperation rule link.1 = .ok operation)
      links operations)
    (nodes : ∀ link ∈ links, link.2.isNode = true) :
    chain rule (first :: linked links) = .ok (first :: links.map Prod.snd, operations) := by
  have others : chainFrom rule 1 (linked links) = .ok (links.map Prod.snd, operations) :=
    chainFrom_linked operators nodes rfl
  -- A chain has one operand more than operators, the first one.
  have lengths := operators.length_eq
  cases first with
  | terminal text => cases node
  | node inner children => simp [chain, chainFrom, others, lengths]

/-- Whether a text is a valid one for a leaf of a rule. -/
def Readable (separator : Char) : Rule → String → Prop
  | .integer, text => ∃ n, Spells (trimChars text.toList) n ∧ InRange n
  | .real, text => IsReal separator (trimChars text.toList)
  | .boolean, text => uppercase (trim text) ∈ ["TRUE", "#T", "FALSE", "#F"]
  | .string, _ => True
  | .symbol, text => ∃ c ∈ text.toList, isBlank c = false
  | .type, text => trim text ∈ ["ℤ", "ℝ", "𝔹", "λ"] ∨ ∃ type : ValueType, Spelled type.name text
  | _, _ => False

variable {separator : Char} {text : String}

/-- A valid text of a symbol is read as a name. -/
theorem exists_symbolLeaf (readable : Readable separator .symbol text) :
    ∃ name, leaf separator .symbol text = .ok (.symbol name) := by
  obtain ⟨c, member, visible⟩ := readable
  -- What is left after trimming is not empty, so there is a name.
  refine ⟨Name.ofText (trim text), ?_⟩
  simp [leaf, symbolLeaf, trim_ne_empty member visible]

/-- The name of a type is a name in capitals already. -/
theorem ofText_name (type : ValueType) : Name.ofText type.name = ⟨type.name⟩ := by
  -- There are as many names as types.
  cases type <;> decide

/-- A valid text of a type is read as the canonical name of a type. -/
theorem exists_typeLeaf (readable : Readable separator .type text) :
    ∃ type : ValueType, leaf separator .type text = .ok (.symbol ⟨type.name⟩) := by
  have named : (ValueType.ofName? text).isSome = true := by
    simp only [ValueType.ofName?]
    rcases readable with known | ⟨type, spelled⟩
    · -- Each of the four signs is found as such.
      have found : ∀ word ∈ ["ℤ", "ℝ", "𝔹", "λ"], (ValueType.ofSign? word).isSome = true := by
        decide
      obtain ⟨type, sign⟩ := Option.isSome_iff_exists.mp (found _ known)
      simp only [sign, Option.isSome_some]
    · have same : sameWord type.name (trim text) = true := (sameWord_comm _ _).trans spelled
      have listed : (ValueType.all.find? fun type => sameWord type.name (trim text)).isSome :=
        List.find?_isSome.mpr ⟨type, type.mem_all, same⟩
      -- A sign would be found before any name is compared.
      split
      · rfl
      · exact listed
  -- It is found by its sign or by its name.
  obtain ⟨type, found⟩ := Option.isSome_iff_exists.mp named
  refine ⟨type, ?_⟩
  simp only [leaf, typeLeaf, found, ofText_name]

/-- A valid text of any other leaf is read as a constant. -/
theorem exists_constantLeaf {rule : Rule} (readable : Readable separator rule text)
    (name : rule ≠ .symbol) (type : rule ≠ .type) :
    ∃ token value, leaf separator rule text = .ok (.literal token value) := by
  -- What a constant is read from hangs on its rule; the two rules of names are excluded.
  cases rule <;> first | exact absurd rfl name | exact absurd rfl type | skip
  case integer =>
    obtain ⟨n, spells, range⟩ := readable
    have read := readInt64_of_spells spells range
    exact ⟨text, .integer (Int64.ofInt n), by simp [leaf, integerLeaf, readInteger, read]⟩
  case real =>
    obtain ⟨x, read⟩ := exists_readReal_of_isReal readable
    exact ⟨text, .real x, by simp [leaf, realLeaf, Scriptlet.readReal, read]⟩
  case boolean =>
    have known : ∀ word ∈ ["TRUE", "#T", "FALSE", "#F"], (truthOf? word).isSome = true := by decide
    obtain ⟨value, found⟩ := Option.isSome_iff_exists.mp (known _ readable)
    exact ⟨uppercase (trim text), .boolean value, by simp only [leaf, booleanLeaf, found]⟩
  case string => exact ⟨_, _, rfl⟩
  all_goals exact readable.elim

end Build

end Scriptlet

import Scriptlet.Proofs.Build.Token

/-!
What the leaves of a tree denote, said without the functions that read them.

Main statement: the reader of leaves makes of a token what it denotes, and nothing of any other.
-/

namespace Scriptlet

namespace ValueType

/-- The mathematical sign of a type, for those that have one. -/
def sign? : ValueType → Option String
  | integer => some "ℤ"
  | real => some "ℝ"
  | boolean => some "𝔹"
  | function => some "λ"
  | string | list => none

/-- Whether a text names a type: by its sign, or by its name in letters of either case. -/
def NamedBy (type : ValueType) (text : String) : Prop :=
  type.sign? = some (Text.trim text) ∨ Text.Spelled type.name text

/-- A sign is that of one type, and no other text is a sign. -/
theorem ofSign?_eq_some_iff {word : String} {type : ValueType} :
    ofSign? word = some type ↔ type.sign? = some word := by
  unfold ofSign?
  -- The four signs are all different, so that each is found for its own type only.
  constructor
  · intro found
    -- What is found for a text is the type that has the text for its sign.
    split_ifs at found <;> cases found <;> simp_all [sign?]
  · intro signed
    cases type <;> simp_all [sign?] <;> subst word <;> decide

/-- The type of a text is the one that it names. -/
theorem ofName?_eq_some_iff {text : String} {type : ValueType} :
    ofName? text = some type ↔ type.NamedBy text := by
  unfold ofName? NamedBy Text.Spelled
  simp only [Text.sameWord_comm _ type.name]
  generalize Text.trim text = word
  cases signed : ofSign? word with
  | some found =>
    -- A sign is found before any name is looked at, and no name is spelled like it.
    have other : ¬Text.sameWord type.name word = true := by
      cases found <;> cases ofSign?_eq_some_iff.mp signed <;> cases type <;> decide
    rw [← ofSign?_eq_some_iff, signed]
    simp [other]
  | none =>
    have unsigned : ¬type.sign? = some word := by
      rw [← ofSign?_eq_some_iff, signed]
      nofun
    let fits (other : ValueType) : Bool := Text.sameWord other.name word
    have passes {other : ValueType} (found : all.find? fits = some other) :
        Text.sameWord other.name word = true := List.find?_some (p := fits) found
    simp only [unsigned, false_or]
    refine ⟨passes, fun same => ?_⟩
    have listed : (all.find? fits).isSome = true :=
      List.find?_isSome.mpr ⟨type, type.mem_all, same⟩
    obtain ⟨first, found⟩ := Option.isSome_iff_exists.mp listed
    -- No two types have names that differ in the case of letters only.
    have alone : ∀ left right : ValueType,
        Text.lowerAscii left.name = Text.lowerAscii right.name → left = right := by
      intro left right
      cases left <;> cases right <;> decide
    -- Both names are spelled like the text, so that they are spelled alike.
    have equal := (Text.sameWord_iff _ _).mp (passes found)
    rw [← (Text.sameWord_iff _ _).mp same] at equal
    exact found.trans (congrArg some (alone first type equal))

end ValueType

namespace Lexeme

/-- The leaf that says a lexeme and nothing else. -/
def expr : Lexeme → Expr
  | .name spelled => .symbol spelled
  | .constant token value => .literal token value

/-- Leaves that say the same are the same. -/
theorem expr_injective {lexeme other : Lexeme} (same : lexeme.expr = other.expr) :
    lexeme = other := by
  -- A name and a constant are different leaves.
  cases lexeme <;> cases other <;> cases same <;> rfl

end Lexeme

namespace Build

open Decimal Text

/-- The words for a truth value. -/
def truthWords : Bool → List String
  | true => ["TRUE", "#T"]
  | false => ["FALSE", "#F"]

/-- What a leaf denotes: the canonical name of a symbol or a type, or a constant with its token. -/
inductive Denotes (separator : Char) : Tree → Lexeme → Prop where
  /-- An integer in range denotes itself. -/
  | integer {text : String} {n : Int} (spells : Spells (trimChars text.toList) n)
      (range : InRange n) :
      Denotes separator (.node .integer [.terminal text]) (.constant text (.integer (.ofInt n)))
  /-- A real number denotes the double that it is read as. -/
  | real {text : String} {x : Float} (reads : Scriptlet.readReal separator text = .ok x) :
      Denotes separator (.node .real [.terminal text]) (.constant text (.real x))
  /-- A truth value is one of its words, and its token is in capitals. -/
  | boolean {text : String} {value : Bool} (word : uppercase (trim text) ∈ truthWords value) :
      Denotes separator (.node .boolean [.terminal text])
        (.constant (uppercase (trim text)) (.boolean value))
  /-- A text between quotes denotes what stands between them. -/
  | quoted {text content : String} (quotes : text.toList = '"' :: content.toList ++ ['"']) :
      Denotes separator (.node .string [.terminal text]) (.constant content (.string content))
  /-- Any other text denotes itself. -/
  | bare {text : String} (bare : ∀ content, text.toList ≠ '"' :: content ++ ['"']) :
      Denotes separator (.node .string [.terminal text]) (.constant text (.string text))
  /-- A symbol denotes its canonical name. -/
  | symbol {text : String} (visible : (trim text).isEmpty = false) :
      Denotes separator (.node .symbol [.terminal text]) (.name (Name.ofText (trim text)))
  /-- A type denotes its canonical name. -/
  | type {text : String} {type : ValueType} (named : type.NamedBy text) :
      Denotes separator (.node .type [.terminal text]) (.name ⟨type.name⟩)

variable {separator : Char} {text : String}

/-- A text is taken for a truth value exactly if it is one of its words. -/
theorem truthOf?_eq_some_iff {word : String} {value : Bool} :
    truthOf? word = some value ↔ word ∈ truthWords value := by
  unfold truthOf?
  constructor
  · intro found
    -- Both words are compared with, those for what is true first.
    split_ifs at found with yes no <;> cases found
    · simpa [truthWords] using yes
    · simpa [truthWords] using no
  · intro listed
    -- There are four words in all.
    have known : ∀ value, ∀ word ∈ truthWords value, truthOf? word = some value := by decide
    exact known value word listed

/-- What stands between quotes is kept without them. -/
theorem unquoted_of_quotes {content : List Char} (quotes : text.toList = '"' :: content ++ ['"']) :
    unquoted text = String.ofList content := by
  -- The quote in front and the one at the end are cut off.
  simp [unquoted, quotes]

/-- What does not stand between quotes is kept as it is. -/
theorem unquoted_of_bare (bare : ∀ content, text.toList ≠ '"' :: content ++ ['"']) :
    unquoted text = text := by
  unfold unquoted
  split
  case h_1 rest same =>
    -- A quote at the end would make it a pair of quotes.
    have single : ¬(rest.getLast? == some '"') = true := by
      intro last
      obtain ⟨content, rfl⟩ := List.getLast?_eq_some_iff.mp (beq_iff_eq.mp last)
      exact bare content same
    exact if_neg single
  case h_2 => rfl

/-- What a leaf denotes is what it is read as. -/
theorem leaf_of_denotes {rule : Rule} {lexeme : Lexeme}
    (denotes : Denotes separator (.node rule [.terminal text]) lexeme) :
    leaf separator rule text = .ok lexeme.expr := by
  cases denotes with
  -- Each reader of a leaf is shown the token that it asks for.
  | integer spells range =>
    simp [leaf, integerLeaf, readInteger, readInt64_of_spells spells range, Lexeme.expr]
  | real reads => simp only [leaf, realLeaf, reads, Lexeme.expr]
  | boolean word =>
    simp only [leaf, booleanLeaf, truthOf?_eq_some_iff.mpr word, Lexeme.expr]
  | quoted quotes =>
    simp only [leaf, stringLeaf, unquoted_of_quotes quotes, String.ofList_toList, Lexeme.expr]
  | bare bare => simp only [leaf, stringLeaf, unquoted_of_bare bare, Lexeme.expr]
  | symbol visible => simp [leaf, symbolLeaf, visible, Lexeme.expr]
  | type named =>
    simp only [leaf, typeLeaf, ValueType.ofName?_eq_some_iff.mpr named, ofText_name, Lexeme.expr]

/-- What a leaf is read as is what it denotes. -/
theorem exists_denotes_of_leaf {rule : Rule} {expr : Expr}
    (read : leaf separator rule text = .ok expr) :
    ∃ lexeme, expr = lexeme.expr ∧ Denotes separator (.node rule [.terminal text]) lexeme := by
  -- Each rule for leaves has a reader of its own, and any other rule has none.
  unfold leaf at read
  split at read
  · -- An integer is in range, or it is not read.
    unfold integerLeaf at read
    split at read <;> cases read
    case h_1 value reads =>
      obtain ⟨n, spells, range, rfl⟩ := spells_of_readInt64 reads
      exact ⟨.constant text _, rfl, .integer spells range⟩
  · -- A real number is the double that the reader comes to.
    unfold realLeaf at read
    split at read <;> cases read
    case h_1 x reads => exact ⟨.constant text _, rfl, .real reads⟩
  · -- The token is in capitals before it is looked at, and stays so in the constant.
    delta booleanLeaf at read
    dsimp only at read
    split at read <;> cases read
    case h_1 value reads =>
      exact ⟨.constant _ _, rfl, .boolean (truthOf?_eq_some_iff.mp reads)⟩
  · cases read
    -- A text either stands between quotes or it does not.
    by_cases quotes : ∃ content, text.toList = '"' :: content ++ ['"']
    · obtain ⟨content, quotes⟩ := quotes
      refine ⟨.constant (String.ofList content) _, ?_, .quoted (by simpa using quotes)⟩
      simp only [stringLeaf, unquoted_of_quotes quotes, Lexeme.expr]
    · have bare : ∀ content, text.toList ≠ '"' :: content ++ ['"'] := not_exists.mp quotes
      refine ⟨.constant text _, ?_, .bare bare⟩
      simp only [stringLeaf, unquoted_of_bare bare, Lexeme.expr]
  · -- A name needs something besides blanks.
    simp only [symbolLeaf] at read
    by_cases blank : (trim text).isEmpty = true
    · rw [if_pos blank] at read
      cases read
    · rw [if_neg blank] at read
      cases read
      exact ⟨.name _, rfl, .symbol (by simpa using blank)⟩
  · -- A type is known by its name or its sign.
    unfold typeLeaf at read
    split at read <;> cases read
    case h_1 type reads =>
      refine ⟨.name ⟨type.name⟩, ?_, .type (ValueType.ofName?_eq_some_iff.mp reads)⟩
      rw [ofText_name, Lexeme.expr]
  · -- The other rules have no reader.
    cases read

/-- A leaf denotes one thing at most. -/
theorem Denotes.unique {tree : Tree} {lexeme other : Lexeme} (here : Denotes separator tree lexeme)
    (there : Denotes separator tree other) : lexeme = other := by
  -- Whatever denotes anything is a leaf with one token, and that is read in one way.
  obtain ⟨rule, text, rfl⟩ : ∃ rule text, tree = .node rule [.terminal text] := by
    cases here <;> exact ⟨_, _, rfl⟩
  have same := (leaf_of_denotes here).symm.trans (leaf_of_denotes there)
  exact Lexeme.expr_injective (by simpa using same)

end Build

end Scriptlet

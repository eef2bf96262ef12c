import Scriptlet.Proofs.Build.Agreement
import Scriptlet.Proofs.Build.Leaf
import Scriptlet.Proofs.Name
import Scriptlet.Proofs.Text.Letters

/-!
Trees that differ in the case of ASCII letters.

Main statement: in tokens that are words, it does not matter whether letters are small or capital.
Either builder comes to the same expression, tokens included, or fails in both cases.
-/

namespace Scriptlet

namespace Rule

/-- Whether the tokens of a node are words; those of numbers and texts are taken by the letter. -/
def readsWords : Rule → Bool
  | integer | real | string => false
  | _ => true

end Rule

namespace Tree

/-- Whether two children of a node of a rule look the same from above, but for the case of words. -/
def akin (rule : Rule) : Tree → Tree → Bool
  | .terminal left, .terminal right =>
    if rule.readsWords then Text.sameWord left right else left == right
  | .node .., .node .. => true
  | _, _ => false

mutual

/-- Whether a tree is another one with the case of letters changed in words. -/
def recased : Tree → Tree → Bool
  | .terminal left, .terminal right => Text.sameWord left right
  | .node rule left, .node rule' right => rule == rule' && allRecased rule left right
  | _, _ => false

/-- Whether the children of a node are others with the case of letters changed in words. -/
def allRecased (rule : Rule) : List Tree → List Tree → Bool
  | [], [] => true
  | left :: lefts, right :: rights =>
    akin rule left right && recased left right && allRecased rule lefts rights
  | _, _ => false

end

mutual

/-- Whether all symbols of a tree are spelled in ASCII. -/
def asciiSymbols : Tree → Bool
  | .terminal _ => true
  | .node rule children =>
    (rule != .symbol || (tokens children).all Text.isAscii) && allAsciiSymbols children

/-- Whether all symbols of some trees are spelled in ASCII. -/
def allAsciiSymbols : List Tree → Bool
  | [] => true
  | tree :: rest => tree.asciiSymbols && allAsciiSymbols rest

end

/-- Whether rows of trees look the same from above, but for the case of words. -/
abbrev Akin (rule : Rule) (left right : List Tree) : Prop :=
  List.Forall₂ (fun tree tree' => akin rule tree tree' = true) left right

/-- Trees that have been recased look the same from above, but for the case of words. -/
theorem akin_of_allRecased {rule : Rule} : {left right : List Tree} →
    allRecased rule left right = true → Akin rule left right
  | [], [], _ => .nil
  | _ :: _, _ :: _, same => by
    simp only [allRecased, Bool.and_eq_true] at same
    exact .cons same.1.1 (akin_of_allRecased same.2)

/-- Tokens that look the same differ in the case of letters at most. -/
theorem sameWord_of_akin {rule : Rule} {left right : String}
    (same : akin rule (.terminal left) (.terminal right) = true) :
    Text.sameWord left right = true := by
  -- The rule says whether letters may differ.
  simp only [akin] at same
  split at same
  · -- They may, in words.
    exact same
  · -- They may not, so the tokens are one.
    rw [beq_iff_eq.mp same, Text.sameWord_iff]

/-- The tokens of rows that look the same differ in the case of letters at most. -/
theorem tokens_akin {rule : Rule} {left right : List Tree} (same : Akin rule left right) :
    List.Forall₂ (fun text text' => Text.sameWord text text' = true) (tokens left)
      (tokens right) := by
  -- Tokens stand opposite tokens, and only they are counted.
  induction same with
  | nil => exact .nil
  | @cons first first' rest rest' face others ih =>
    cases first <;> cases first' <;> simp only [akin, Bool.false_eq_true] at face
    case terminal.terminal => exact .cons (sameWord_of_akin face) ih
    case node.node => exact ih

end Tree

namespace Name

/-- A name in ASCII is the same in letters of either case. -/
theorem ofText_congr {left right : String} (same : Text.sameWord left right = true)
    (ascii : Text.isAscii left = true) : ofText left = ofText right := by
  -- No character of ASCII is in title case.
  have raised {text : String} (ascii : Text.isAscii text = true) : Raised text := by
    refine .inr fun c member => ?_
    have bounded : c.toNat < 0x80 := by simpa using List.all_eq_true.mp ascii c member
    have beyond : ∀ point ∈ Text.titlePoints, 0x80 ≤ point := by decide
    rw [Bool.eq_false_iff]
    intro title
    have := beyond c.toNat (by simpa [Text.isTitle] using title)
    omega
  exact (ofText_eq_iff (Text.uppercase_congr same)).mpr
    (.inr ⟨raised ascii, raised (Text.isAscii_congr same ▸ ascii)⟩)

end Name

namespace ValueType

open Text

/-- A type is read in letters of either case. -/
theorem ofName?_congr {left right : String} (same : sameWord left right = true) :
    ofName? left = ofName? right := by
  -- Blanks are taken off alike on both sides.
  have trimmed := trim_congr same
  have letters : (trim left).toList.map Char.toLower = (trim right).toList.map Char.toLower := by
    simpa [sameWord] using trimmed
  -- The mathematical signs are no letters of ASCII, so that each has one spelling only.
  have alone : ∀ type : ValueType, ∀ sign, type.sign? = some sign →
      (sign.toList.all fun c => !c.toLower.isLower) = true := by
    intro type
    cases type <;> decide
  ext type
  rw [ofName?_eq_some_iff, ofName?_eq_some_iff]
  refine or_congr ⟨fun signed => ?_, fun signed => ?_⟩ ?_
  · -- A sign on the left is the same sign on the right.
    have none := alone type _ signed
    rw [signed, String.ext (eq_of_map_toLower letters.symm (by simpa using none))]
  · -- A sign on the right is the same sign on the left.
    have none := alone type _ signed
    rw [signed, String.ext (eq_of_map_toLower letters (by simpa using none))]
  · -- Names of types are compared without regard to case anyway.
    rw [Spelled, Spelled, sameWord_congr trimmed]

end ValueType

namespace Build

open Scriptlet.Tree Text

/-! What is read from words. -/

section Words

variable {separator : Char} {rule : Rule} {left right : String}

/-- An operator is read in letters of either case. -/
theorem chainOperation_concur (same : sameWord left right = true) :
    Concur (· = ·) (chainOperation rule left) (chainOperation rule right) := by
  unfold chainOperation
  rw [Operation.ofOperator?_congr (trim_congr same)]
  split
  -- An operator was found, the same one for both.
  case h_1 operation _ => cases allowed : allows rule operation <;> simp [Concur]
  -- No operator was found for either.
  case h_2 => trivial

/-- A leaf is read in letters of either case, if its rule reads words. -/
theorem leaf_concur (same : akin rule (.terminal left) (.terminal right) = true)
    (ascii : rule = .symbol → isAscii left = true) :
    Concur (· = ·) (leaf separator rule left) (leaf separator rule right) := by
  have words := sameWord_of_akin same
  -- Each rule of leaves is taken by itself; some of them read by the letter.
  cases rule
  case integer | real | string =>
    rw [beq_iff_eq.mp same]
    exact .refl fun _ => rfl
  case boolean =>
    simp only [leaf, booleanLeaf, uppercase_congr (trim_congr words)]
    generalize uppercase (trim right) = word
    cases truthOf? word with
    | some value => exact rfl
    | none => trivial
  case type =>
    simp only [leaf, typeLeaf, ValueType.ofName?_congr words]
    cases ValueType.ofName? right with
    | some type => exact rfl
    -- Neither token is a type.
    | none => trivial
  case symbol =>
    have trimmed := trim_congr words
    have name := Name.ofText_congr trimmed (isAscii_trim (ascii rfl))
    simp only [leaf, symbolLeaf, isEmpty_congr trimmed, name]
    exact .refl fun _ => rfl
  all_goals trivial

end Words

/-! What a node sees of its children. -/

section Above

variable {separator : Char} {rule : Rule} {left right : List Tree}

/-- Operators and the places of operands are seen in letters of either case. -/
theorem chainFrom_concur (same : Akin rule left right) (position : Nat) :
    Concur (fun split split' => split.1.length = split'.1.length ∧ split.2 = split'.2)
      (chainFrom rule position left) (chainFrom rule position right) := by
  -- Operands and operators take turns, so the position stays quantified over.
  induction same generalizing position with
  | nil => exact ⟨rfl, rfl⟩
  | @cons first first' rest rest' face others ih =>
    cases first <;> cases first' <;> simp only [akin, Bool.false_eq_true] at face
    case terminal.terminal text text' =>
      simp only [chainFrom]
      split
      · -- No operator may stand here.
        trivial
      · -- The two operators are one, and the rest follows.
        refine (chainOperation_concur (sameWord_of_akin face)).bind fun operation _ equal => ?_
        cases equal
        refine (ih (position + 1)).bind fun split split' both => ?_
        exact ⟨both.1, congrArg (operation :: ·) both.2⟩
    case node.node =>
      simp only [chainFrom]
      split
      · -- No operand may stand here.
        trivial
      · -- The operand counts on both sides, whatever it is.
        refine (ih (position + 1)).bind fun split split' both => ?_
        exact ⟨congrArg (· + 1) both.1, both.2⟩

/-- The operators of a chain are seen in letters of either case, and so is whether it is one. -/
theorem chain_concur (same : Akin rule left right) :
    Concur (fun split split' => split.2 = split'.2) (chain rule left) (chain rule right) := by
  refine (chainFrom_concur same 0).bind fun split split' both => ?_
  obtain ⟨operands, operations⟩ := split
  obtain ⟨operands', operations'⟩ := split'
  obtain ⟨lengths, rfl⟩ := both
  -- As many operands are counted on both sides.
  simp only [lengths]
  split
  · -- There are too many or too few of them on both sides.
    trivial
  · -- The chain is one on both sides.
    exact rfl

/-- A sign is seen in letters of either case. -/
theorem sign_concur (same : Akin rule left right) :
    Concur (· = ·) (sign rule left) (sign rule right) := by
  -- Only two rules have a sign.
  unfold sign
  cases signOf? rule with
  | none => trivial
  | some found =>
    obtain ⟨keyword, operation⟩ := found
    have texts := tokens_akin same
    generalize tokens left = row, tokens right = row' at texts
    cases texts with
    | nil => exact rfl
    | @cons text text' rest rest' word others =>
      -- A second token is refused whatever it is.
      cases others with
      | nil =>
        simp only [sameWord_congr (trim_congr word)]
        cases Text.sameWord (trim text') keyword with
        | true => exact rfl
        | false => trivial
      | cons => trivial

/-- A leaf is seen in letters of either case, if its rule reads words. -/
theorem readLeaf_concur (same : Akin rule left right)
    (ascii : rule = .symbol → (tokens left).all isAscii = true) :
    Concur (· = ·) (readLeaf separator rule left) (readLeaf separator rule right) := by
  -- A leaf has one child, and this is a token.
  cases same with
  | nil => trivial
  | @cons first first' rest rest' face others =>
    cases others with
    | nil =>
      cases first <;> cases first' <;> simp only [akin, Bool.false_eq_true] at face
      case terminal.terminal text text' =>
        exact leaf_concur face fun symbol => by simpa [tokens, text?] using ascii symbol
      case node.node => trivial
    | cons => cases first <;> cases first' <;> trivial

/-- Where the number of parts is fixed, words are seen in letters of either case. -/
theorem assembleFixed_concur (same : Akin rule left right) (parts : List Expr) :
    Concur (· = ·) (assembleFixed rule left parts) (assembleFixed rule right parts) := by
  -- Only a sign is read from the tokens, by the two rules that have one.
  cases rule
  case denial | signed =>
    refine (sign_concur same).bind fun operation _ equal => ?_
    cases equal
    exact .refl fun _ => rfl
  all_goals exact .refl fun _ => rfl

/-- A node is put together from its parts and from what it sees in letters of either case. -/
theorem assemble_concur (same : Akin rule left right)
    (ascii : rule = .symbol → (tokens left).all isAscii = true) (parts : List Expr) :
    Concur (· = ·) (assemble separator rule left parts) (assemble separator rule right parts) := by
  -- The groups of rules are taken one after the other.
  unfold assemble
  split
  · -- Where parts are collected, tokens are not looked at.
    exact .refl fun _ => rfl
  split
  · -- A leaf reads its token.
    exact readLeaf_concur same ascii
  split
  · -- A chain reads its operators.
    refine (chain_concur same).bind fun split split' equal => ?_
    simp only [equal]
    exact .refl fun _ => rfl
  · -- All others look for a sign at most.
    exact assembleFixed_concur same parts

end Above

/-! The nodes below. -/

mutual

/-- An ascent comes to the same in letters of either case, or fails in both. -/
theorem ascend_concur (separator : Char) : (tree tree' : Tree) → tree.recased tree' = true →
    tree.asciiSymbols = true → Concur (· = ·) (ascend separator tree) (ascend separator tree')
  | .terminal _, .terminal _, _, _ => trivial
  | .node rule children, .node rule' children', same, ascii => by
    -- One rule stands above on both sides, and the children are recased.
    simp only [recased, Bool.and_eq_true, beq_iff_eq] at same
    obtain ⟨rfl, below⟩ := same
    simp only [asciiSymbols, Bool.and_eq_true, Bool.or_eq_true, bne_iff_ne] at ascii
    refine (ascendAll_concur separator rule children children' below ascii.2).bind
      fun parts _ equal => ?_
    cases equal
    exact assemble_concur (akin_of_allRecased below) (ascii.1.resolve_left <| not_not_intro ·) parts

/-- An ascent through a row comes to the same in letters of either case, or fails in both. -/
theorem ascendAll_concur (separator : Char) (rule : Rule) : (trees trees' : List Tree) →
    allRecased rule trees trees' = true → allAsciiSymbols trees = true →
    Concur (· = ·) (ascendAll separator trees) (ascendAll separator trees')
  | [], [], _, _ => rfl
  | .terminal _ :: rest, .terminal _ :: rest', same, ascii => by
    simp only [allRecased, allAsciiSymbols, Bool.and_eq_true] at same ascii
    exact ascendAll_concur separator rule rest rest' same.2 ascii.2
  | .node inner children :: rest, .node inner' children' :: rest', same, ascii => by
    simp only [allRecased, allAsciiSymbols, Bool.and_eq_true] at same ascii
    simp only [ascendAll]
    refine (ascend_concur separator _ _ same.1.2 ascii.1).bind fun expr _ equal => ?_
    cases equal
    refine (ascendAll_concur separator rule rest rest' same.2 ascii.2).bind
      fun exprs _ equal => ?_
    cases equal
    exact rfl

end

end Build

namespace Builder

open Build

/--
Whether words are written in small letters or in capitals makes no difference to a script.

If the symbols of a tree are spelled in ASCII, and another tree differs from it at most in the case
of ASCII letters in tokens that are words, either builder makes one expression of both trees, with
the same names and tokens in it, or fails on both.
-/
theorem build_recased (builder : Builder) (separator : Char) {tree tree' : Tree}
    (same : tree.recased tree' = true) (ascii : tree.asciiSymbols = true) :
    (∃ expr, builder.build separator tree = .ok expr ∧
      builder.build separator tree' = .ok expr) ∨
    ∃ error error', builder.build separator tree = .error error ∧
      builder.build separator tree' = .error error' := by
  have agree (expr : Expr) :
      builder.build separator tree = .ok expr ↔ builder.build separator tree' = .ok expr := by
    have ascents := (ascend_concur separator tree tree' same ascii).eq_ok_iff expr
    -- A token is no tree of its own, so that both are nodes or both fail.
    cases tree <;> cases tree' <;> simp only [Tree.recased, Bool.false_eq_true] at same
    case terminal.terminal => exact Iff.rfl
    case node.node =>
      cases builder with
      | listener => simpa only [build, stackUp_eq_ascend] using ascents
      -- A descent looks at tokens earlier, which makes no difference where nothing is wrong.
      | visitor => simpa only [build, ← ascend_eq_ok_iff] using ascents
  -- What the first tree comes to, the second one does as well.
  cases built : builder.build separator tree with
  | ok expr => exact .inl ⟨expr, rfl, (agree expr).mp built⟩
  | error error =>
    cases built' : builder.build separator tree' with
    | ok expr =>
      rw [(agree expr).mpr built'] at built
      cases built
    | error error' => exact .inr ⟨error, error', rfl, rfl⟩

/-- A function of a truth value, with its words given: `(x : boolean) {not x and true}`. -/
def denying (symbol type denial conjunction truth : String) : Tree :=
  .node .anonymousDefinition
    [.terminal "(",
     .node .parameter
       [.node .symbol [.terminal symbol], .terminal ":", .node .type [.terminal type]],
     .terminal ")",
     .node .block
       [.terminal "\x7b",
        .node .conjunction
          [.node .denial [.terminal denial, .node .symbol [.terminal symbol]],
           .terminal conjunction, .node .boolean [.terminal truth]],
        .terminal "\x7d"]]

/-- A name, a type, a sign, an operator and a truth value, in small letters and in capitals. -/
theorem build_recased_denying :
    let quiet := denying "x" " boolean" "not" "and " "true"
    let loud := denying "X" " Boolean" "NOT" "And " "tRUE"
    quiet.recased loud = true ∧ quiet.asciiSymbols = true ∧ ∀ builder : Builder,
      ∃ expr, builder.build '.' quiet = .ok expr ∧ builder.build '.' loud = .ok expr := by
  intro quiet loud
  have recased : quiet.recased loud = true := by decide +kernel
  have ascii : quiet.asciiSymbols = true := by decide +kernel
  refine ⟨recased, ascii, fun builder =>
    (build_recased builder '.' recased ascii).resolve_right ?_⟩
  -- Nothing is wrong with the one in small letters.
  rintro ⟨error, -, failed, -⟩
  cases builder <;> cases failed

end Builder

end Scriptlet

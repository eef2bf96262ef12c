import Mathlib.Data.List.Forall2
import Scriptlet.Proofs.Build.Leaf
import Scriptlet.Proofs.Build.Shape

/-!
What is built says what the tree says, from left to right.

Main statement: the names and constants of an expression are those that the leaves of the tree
denote, in the order of the script, with none lost and none said twice.
-/

namespace Scriptlet

namespace Expr

mutual

/-- What an expression says in front of others is what it says by itself, and then the others. -/
theorem lexemesBefore_append (tail : List Lexeme) : (expr : Expr) →
    expr.lexemesBefore tail = expr.lexemes ++ tail
  | literal .. => rfl
  | symbol _ => rfl
  | node _ none children => by
    -- A node without a name leaves it to its children.
    simp only [lexemes, lexemesBefore]
    exact allLexemesBefore_append tail children
  | node _ (some name) children => by
    -- The name comes first, and the rest is said by the children.
    simp only [lexemes, lexemesBefore, List.cons_append]
    exact congrArg _ (allLexemesBefore_append tail children)

/-- What expressions say in front of others is what they say by themselves, and then the others. -/
theorem allLexemesBefore_append (tail : List Lexeme) : (exprs : List Expr) →
    allLexemesBefore exprs tail = allLexemesBefore exprs [] ++ tail
  | [] => rfl
  | expr :: rest => by
    -- Both sides start with what the first expression says.
    rw [allLexemesBefore, allLexemesBefore, lexemesBefore_append, allLexemesBefore_append tail rest,
      lexemesBefore_append (allLexemesBefore rest []), List.append_assoc]

end

/-- What expressions in a row say is what each of them says. -/
theorem allLexemesBefore_nil (exprs : List Expr) :
    allLexemesBefore exprs [] = exprs.flatMap lexemes := by
  -- One expression after the other says what it says in front of the rest.
  induction exprs with
  | nil => rfl
  | cons expr rest ih => rw [allLexemesBefore, lexemesBefore_append, ih, List.flatMap_cons]

/-- A constant says itself with its token. -/
@[simp] theorem lexemes_literal (token : String) (value : Literal) :
    (literal token value).lexemes = [.constant token value] := rfl

/-- A name says itself. -/
@[simp] theorem lexemes_symbol (name : Name) : (symbol name).lexemes = [.name name] := rfl

/-- A node says its name, if it has one, and then what its children say. -/
@[simp] theorem lexemes_node (operation : Operation) (name : Option Name) (children : List Expr) :
    (node operation name children).lexemes =
      (name.map .name).toList ++ children.flatMap lexemes := by
  cases name <;> simp [lexemes, lexemesBefore, allLexemesBefore_nil]

/-- A node without a name says what its children say. -/
@[simp] theorem lexemes_plain (operation : Operation) (children : List Expr) :
    (plain operation children).lexemes = children.flatMap lexemes := by
  -- There is no name to be said first.
  simp [plain]

end Expr

namespace Lexeme

/-- The leaf of a lexeme says it and nothing else. -/
theorem lexemes_expr (lexeme : Lexeme) : lexeme.expr.lexemes = [lexeme] := by
  -- A name says itself, and so does a constant.
  cases lexeme <;> rfl

end Lexeme

namespace Tree

mutual

/-- The nodes of a tree for single tokens, in the order of the script. -/
def leaves : Tree → List Tree
  | terminal _ => []
  | node rule children =>
    if rule.isLexical then node rule children :: allLeaves children else allLeaves children

/-- The nodes of some trees for single tokens, in the order of the script. -/
def allLeaves : List Tree → List Tree
  | [] => []
  | tree :: rest => tree.leaves ++ allLeaves rest

end

end Tree

namespace Build

open Expr

variable {separator : Char} {rule : Rule} {parts : List Expr} {expr : Expr}

/-! A node says what its parts say. -/

/-- Operands nested to the left say what they say in a row. -/
theorem lexemes_nestLeft {left : Expr} {operations : List Operation} {operands : List Expr}
    (lengths : operands.length = operations.length) :
    (nestLeft left operations operands).lexemes = left.lexemes ++ operands.flatMap lexemes := by
  -- What has been nested so far is the left operand of the next operation.
  induction operations generalizing left operands with
  | nil =>
    rw [List.length_eq_zero_iff.mp lengths]
    simp [nestLeft]
  | cons operation operations ih =>
    cases operands with
    -- There are as many operands as operations, so that neither runs out first.
    | nil => cases lengths
    | cons right operands =>
      have rest : operands.length = operations.length := Nat.succ.inj lengths
      rw [nestLeft, ih rest]
      simp

/-- Operands nested to the right say what they say in a row. -/
theorem lexemes_nestRight {left : Expr} {operations : List Operation} {operands : List Expr}
    (lengths : operands.length = operations.length) :
    (nestRight left operations operands).lexemes = left.lexemes ++ operands.flatMap lexemes := by
  -- Here the rest of the chain is the right operand, and its first operand moves along.
  induction operations generalizing left operands with
  | nil =>
    rw [List.length_eq_zero_iff.mp lengths]
    simp [nestRight]
  | cons operation operations ih =>
    cases operands with
    -- The two run out together here as well.
    | nil => cases lengths
    | cons right operands =>
      have rest : operands.length = operations.length := Nat.succ.inj lengths
      rw [nestRight, lexemes_plain]
      simp [ih rest]

/-- A chain says what its operands say; the count of operators makes sure that none is left out. -/
theorem lexemes_joinChain {operations : List Operation}
    (built : joinChain rule parts operations = .ok expr) :
    expr.lexemes = parts.flatMap lexemes := by
  -- A chain without operands is refused.
  cases parts with
  | nil => simp [joinChain] at built
  | cons first others =>
    simp only [joinChain] at built
    split at built
    · simp at built
    case isFalse lengths =>
      have others : others.length = operations.length := by simpa using lengths
      -- Powers nest to the right, and everything else to the left.
      split at built <;> cases built
      · exact lexemes_nestRight others
      · exact lexemes_nestLeft others

/-- A part that is handed on says what it says. -/
theorem lexemes_of_one (built : one rule parts = .ok expr) :
    expr.lexemes = parts.flatMap lexemes := by
  -- There is one part, and it is the expression.
  unfold one at built
  split at built <;> cases built
  simp

/-- A block says what the part in it says. -/
theorem lexemes_of_block (built : block parts = .ok expr) :
    expr.lexemes = parts.flatMap lexemes := by
  unfold block at built
  -- A sequence stands for itself, and anything else becomes the only item of one.
  split at built
  · cases built
    simp
  · split at built <;> cases built <;> simp
  · cases built

/-- A sign says nothing that is listed. -/
theorem lexemes_applySign (operation : Option Operation) (operand : Expr) :
    (applySign operation operand).lexemes = operand.lexemes := by
  -- With a sign or without one, the operand is all that speaks.
  cases operation <;> simp [applySign]

/-- A node with a fixed number of parts says what they say, its own tokens nothing. -/
theorem lexemes_assembleFixed {children : List Tree}
    (built : assembleFixed rule children parts = .ok expr) :
    expr.lexemes = parts.flatMap lexemes := by
  unfold assembleFixed at built
  -- Each rule takes its parts in the order in which they stand.
  split at built
  · -- A binding says its name first.
    obtain ⟨⟨target, value⟩, both, built⟩ := bind_eq_ok.mp built
    rw [parts_of_two both]
    simp only [bind] at built
    split at built <;> cases built
    simp
  · -- A loop says its condition first.
    obtain ⟨⟨condition, body⟩, both, built⟩ := bind_eq_ok.mp built
    rw [parts_of_two both]
    simp only [loop] at built
    split at built <;> cases built
    simp
  · -- A parameter says its name first, and then its type.
    obtain ⟨⟨name, type⟩, both, built⟩ := bind_eq_ok.mp built
    rw [parts_of_two both]
    simp only [parameter] at built
    split at built <;> cases built
    simp
  · exact lexemes_of_block built
  · -- A negation says what is negated, and its sign says nothing.
    obtain ⟨operation, -, built⟩ := bind_eq_ok.mp built
    obtain ⟨operand, only, built⟩ := bind_eq_ok.mp built
    cases built
    rw [lexemes_applySign, lexemes_of_one only]
  · -- So does a number with a sign.
    obtain ⟨operation, -, built⟩ := bind_eq_ok.mp built
    obtain ⟨operand, only, built⟩ := bind_eq_ok.mp built
    cases built
    rw [lexemes_applySign, lexemes_of_one only]
  · -- All other rules hand one part on.
    exact lexemes_of_one built

/-- A definition says its name, if it has one, and then its parts. -/
theorem lexemes_of_define {name : Option Name} (built : define rule name parts = .ok expr) :
    expr.lexemes = (name.map .name).toList ++ parts.flatMap lexemes := by
  -- The parts are checked and kept as they are.
  unfold define at built
  split at built <;> cases built
  simp

/-- Pairing neighbours up keeps them in their order. -/
theorem lexemes_of_pairUp? {arms : List Expr} (paired : pairUp? parts = some arms) :
    arms.flatMap lexemes = parts.flatMap lexemes := by
  -- Two parts are taken at a time.
  induction parts using pairUp?.induct generalizing arms with
  | case1 =>
    cases paired
    rfl
  | case2 => cases paired
  | case3 first second rest ih =>
    obtain ⟨others, tail, rfl⟩ := Option.map_eq_some_iff.mp paired
    simp [ih tail]

/-- A node with any number of parts says what they say, a name that it takes over first. -/
theorem lexemes_assembleAny (built : assembleAny rule parts = .ok expr) :
    expr.lexemes = parts.flatMap lexemes := by
  unfold assembleAny at built
  split at built
  · -- A sequence keeps its parts.
    cases built
    simp
  · -- A list keeps its parts.
    cases built
    simp
  · -- The name of the function was its first part.
    unfold defineNamed at built
    split at built
    · cases built
    · rw [lexemes_of_define built]
      simp
    · cases built
  · -- Without a name, a definition says its parts.
    rw [lexemes_of_define built]
    simp
  · -- A selection says its arms, and a pair says both its parts.
    unfold select at built
    split at built <;> cases built
    case h_1 arms paired => rw [lexemes_plain, lexemes_of_pairUp? paired]
  · -- A call takes the name of its function over, or keeps its definition as a child.
    unfold call at built
    split at built <;> cases built <;> simp
  · -- No other rule collects its parts.
    cases built

/-! What the leaves of a tree denote is what the expression says. -/

/-- A tree that is a leaf says what it denotes. -/
theorem denotes_of_readLeaf {children : List Tree} (lexical : rule.isLexical = true)
    (read : readLeaf separator rule children = .ok expr) :
    List.Forall₂ (Denotes separator) (Tree.node rule children).leaves expr.lexemes := by
  -- A node that is read as a leaf has one token and nothing else.
  obtain ⟨text, only, read⟩ := bind_eq_ok.mp read
  obtain rfl : children = [.terminal text] := children_of_onlyToken only
  obtain ⟨lexeme, rfl, denotes⟩ := exists_denotes_of_leaf read
  rw [Tree.leaves, if_pos lexical, lexeme.lexemes_expr]
  exact .cons denotes .nil

mutual

/-- The leaves of a tree denote what its expression says. -/
theorem denotes_ascend (separator : Char) (expr : Expr) : (tree : Tree) →
    ascend separator tree = .ok expr →
      List.Forall₂ (Denotes separator) tree.leaves expr.lexemes
  | .terminal text, read => by cases read
  | .node rule children, read => by
    -- What is below the node has been built before, and is all that the node is made of.
    obtain ⟨parts, below, built⟩ := bind_eq_ok.mp read
    by_cases lexical : rule.isLexical = true
    · -- What is below a leaf is a token and says nothing.
      rw [assemble, if_neg (by simp [rule.not_collects_of_isLexical lexical]), if_pos lexical]
        at built
      exact denotes_of_readLeaf lexical built
    · -- Whichever way a node is put together, it says what its parts say.
      have kept : expr.lexemes = parts.flatMap Expr.lexemes := by
        simp only [assemble, if_neg lexical] at built
        split_ifs at built
        · exact lexemes_assembleAny built
        · obtain ⟨⟨operands, operations⟩, -, joined⟩ := bind_eq_ok.mp built
          exact lexemes_joinChain joined
        · exact lexemes_assembleFixed built
      rw [Tree.leaves, if_neg lexical, kept]
      exact denotes_ascendAll separator parts children below

/-- The leaves of trees in a row denote what their expressions say one after the other. -/
theorem denotes_ascendAll (separator : Char) (parts : List Expr) : (trees : List Tree) →
    ascendAll separator trees = .ok parts →
      List.Forall₂ (Denotes separator) (Tree.allLeaves trees) (parts.flatMap Expr.lexemes)
  | [], read => by
    cases read
    exact .nil
  | .terminal text :: rest, read => denotes_ascendAll separator parts rest read
  | .node rule children :: rest, read => by
    -- The first node speaks, and then the others do.
    simp only [ascendAll, bind_eq_ok, pure_eq_ok, Except.ok.injEq] at read
    obtain ⟨first, here, others, there, rfl⟩ := read
    rw [Tree.allLeaves, List.flatMap_cons]
    exact List.rel_append (denotes_ascend separator first (.node rule children) here)
      (denotes_ascendAll separator others rest there)

end

end Build

namespace Builder

/--
The leaves of a tree denote what the expression built of it says from left to right, and nothing
else: of each node its name and then its children, of each leaf its name or its constant.
-/
theorem lexemes_of_build (builder : Builder) (separator : Char) (tree : Tree) (expr : Expr)
    (built : builder.build separator tree = .ok expr) (lexemes : List Lexeme) :
    List.Forall₂ (Build.Denotes separator) tree.leaves lexemes ↔ lexemes = expr.lexemes := by
  -- An expression comes from an ascent, which says how its leaves speak.
  have said := Build.denotes_ascend separator expr tree (ascend_of_build built)
  constructor
  · intro denoted
    -- No leaf denotes two things, so that there is one such list at most.
    have unique : Relator.RightUnique (Build.Denotes separator) :=
      fun _ _ _ here there => here.unique there
    exact unique.forall₂ denoted said
  · rintro rfl
    exact said

/-- The definition of a function with a type, a text and powers in it, as a tree. -/
def powersTree : Tree :=
  .node .namedDefinition [
    .node .symbol [.terminal "raise"], .terminal "(",
    .node .parameter [.node .symbol [.terminal "n"], .terminal ":", .node .type [.terminal "ℤ"]],
    .terminal ")",
    .node .block [.node .list [
      .node .power [.node .symbol [.terminal "n"], .terminal "^", .node .integer [.terminal "2"],
        .terminal "^", .node .boolean [.terminal "true"]],
      .node .string [.terminal "\"up\""]]]]

/-- The definition, its name taken over by the node and its powers nested to the right. -/
def powers : Expr :=
  .node .define (some ⟨"RAISE"⟩) [
    .plain .pair [.symbol ⟨"N"⟩, .symbol ⟨"INTEGER"⟩],
    .plain .sequence [.plain .list [
      .plain .power [.symbol ⟨"N"⟩,
        .plain .power [.literal "2" (.integer 2), .literal "TRUE" (.boolean true)]],
      .literal "up" (.string "up")]]]

/-- The seven leaves of the definition denote what its expression says, name first. -/
theorem lexemes_of_build_powers :
    listener.build '.' powersTree = .ok powers ∧
      List.Forall₂ (Build.Denotes '.') powersTree.leaves
        [.name ⟨"RAISE"⟩, .name ⟨"N"⟩, .name ⟨"INTEGER"⟩, .name ⟨"N"⟩, .constant "2" (.integer 2),
          .constant "TRUE" (.boolean true), .constant "up" (.string "up")] := by
  -- The builder runs on the tree as it stands.
  have built : listener.build '.' powersTree = .ok powers := by rfl
  exact ⟨built, (lexemes_of_build listener '.' powersTree powers built _).mpr rfl⟩

end Builder

end Scriptlet

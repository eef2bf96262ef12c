import Mathlib.Data.List.Forall2
import Mathlib.Logic.Relation
import Scriptlet.Proofs.Build.Agreement
import Scriptlet.Proofs.Build.Token

/-!
Levels of the grammar that add nothing to what is in them.

Main statement: such a level can be put around any node of any tree, or taken away, and either
builder comes to the same outcome. It holds because a node never looks at the rule of a node below
it: of its children it sees the tokens, the places where nodes stand, and what those nodes mean.
-/

namespace Scriptlet

namespace Rule

/-- Whether a node of the rule means what the one node in it means, whatever tokens it holds. -/
def passesThrough : Rule → Bool
  | expression | consequent | factor | callee => true
  | _ => false

end Rule

namespace Tree

/-- A node around another one to whose meaning it adds nothing. -/
inductive Level where
  /-- A node that is passed through, with any tokens in front of the other one and behind it. -/
  | loose (rule : Rule) (passed : rule.passesThrough = true) (before after : List String)
  /-- A chain of one operand, or an operand without a sign. -/
  | bare (rule : Rule) (plain : (rule.isChain || rule.isSigned) = true)

/-- The rule of a level. -/
def Level.rule : Level → Rule
  | loose rule .. | bare rule _ => rule

/-- What a node of a level holds around another tree. -/
def Level.content (tree : Tree) : Level → List Tree
  | loose _ _ before after => before.map terminal ++ tree :: after.map terminal
  | bare .. => [tree]

/-- A tree with a level around it. -/
def Level.around (level : Level) (tree : Tree) : Tree :=
  .node level.rule (level.content tree)

/-- A node around a place in a tree: its rule, and its children in front of the place and behind. -/
structure Layer where
  /-- The rule of the node. -/
  rule : Rule
  /-- The children in front of the place. -/
  before : List Tree
  /-- The children behind the place. -/
  after : List Tree

/-- The tree that has another one at a place, given the nodes around the place from the outside. -/
def plug : List Layer → Tree → Tree
  | [], tree => tree
  | layer :: inner, tree => .node layer.rule (layer.before ++ plug inner tree :: layer.after)

/-- Whether one tree is another one with a level put around one of its nodes. -/
def Padded (tree padded : Tree) : Prop :=
  ∃ path level rule children, tree = plug path (.node rule children) ∧
    padded = plug path (Level.around level (.node rule children))

/-- Whether two trees look the same from above: they are the same token, or both are nodes. -/
def SameFace (left right : Tree) : Prop :=
  left.text? = right.text?

/-- Rows of trees look the same from above if they differ in one node only. -/
theorem sameFaces_inside {left right : Tree} (same : SameFace left right)
    (before after : List Tree) :
    List.Forall₂ SameFace (before ++ left :: after) (before ++ right :: after) := by
  -- All other trees in the two rows are the same.
  have refl (trees : List Tree) : List.Forall₂ SameFace trees trees :=
    List.forall₂_same.mpr fun _ _ => rfl
  exact List.rel_append (refl before) (.cons same (refl after))

/-- Rows of trees that look the same from above hold the same tokens. -/
theorem tokens_congr {left right : List Tree} (same : List.Forall₂ SameFace left right) :
    tokens left = tokens right := by
  induction same with
  | nil => rfl
  | cons first rest ih =>
    -- What a token says is all that is looked at.
    have head : text? _ = text? _ := first
    simp only [tokens, List.filterMap_cons, head]
    rw [← tokens, ← tokens, ih]

/-- The nodes of two rows in a row are those of the first one and those of the second one. -/
@[simp] theorem nodes_append (front back : List Tree) :
    nodes (front ++ back) = nodes front ++ nodes back :=
  List.filter_append front back

/-- Tokens are no nodes. -/
@[simp] theorem nodes_map_terminal (texts : List String) : nodes (texts.map terminal) = [] := by
  -- Each of them is filtered out.
  induction texts with
  | nil => rfl
  | cons text rest ih => exact ih

end Tree

namespace Build

open Tree

/-! What a node sees of its children. -/

variable {separator : Char} {rule : Rule} {left right : List Tree}

/-- Whether there is one token and nothing else is seen from above. -/
theorem onlyToken_congr (same : List.Forall₂ SameFace left right) :
    onlyToken rule left = onlyToken rule right := by
  cases same with
  -- In an empty row there is no token on either side.
  | nil => rfl
  | @cons first first' rest rest' face others =>
    -- A second child is refused whatever it is, so that only the first one is looked at.
    cases others with
    | nil => cases first <;> cases first' <;> simp_all [SameFace, text?, onlyToken]
    | cons => cases first <;> cases first' <;> rfl

/-- Where the operands of a chain stand, and what its operators are, is seen from above. -/
theorem chainFrom_alike (same : List.Forall₂ SameFace left right) (position : Nat) :
    Alike (fun split split' => split.1.length = split'.1.length ∧ split.2 = split'.2)
      (chainFrom rule position left) (chainFrom rule position right) := by
  -- Operands and operators take turns, so the position stays quantified over.
  induction same generalizing position with
  | nil => exact ⟨rfl, rfl⟩
  | @cons first first' rest rest' face others ih =>
    cases first <;> cases first' <;> simp only [SameFace, text?, reduceCtorEq] at face
    case terminal.terminal text text' =>
      cases face
      -- Where an operator stands on both sides, it is the same token.
      simp only [chainFrom]
      split
      · rfl
      · refine (Alike.known (chainOperation rule text)).bind fun operation _ read => ?_
        cases read.1
        refine (ih (position + 1)).bind fun split split' both => ?_
        exact ⟨both.1, congrArg (operation :: ·) both.2⟩
    case node.node =>
      -- Where an operand stands, it is counted, whatever it is.
      simp only [chainFrom]
      split
      · rfl
      · refine (ih (position + 1)).bind fun split split' both => ?_
        exact ⟨congrArg (· + 1) both.1, both.2⟩

/-- The operators of a chain are seen from above, and so is whether it is one. -/
theorem chain_alike (same : List.Forall₂ SameFace left right) :
    Alike (fun split split' => split.2 = split'.2) (chain rule left) (chain rule right) := by
  -- Operands and operators have been parted alike on both sides.
  refine (chainFrom_alike same 0).bind fun split split' both => ?_
  obtain ⟨operands, operations⟩ := split
  obtain ⟨operands', operations'⟩ := split'
  obtain ⟨lengths, rfl⟩ := both
  -- As many operands are counted on both sides.
  simp only [lengths]
  split
  · rfl
  · rfl

/-- The sign of a node is one of the tokens that are seen from above. -/
theorem sign_congr (same : List.Forall₂ SameFace left right) :
    sign rule left = sign rule right := by
  -- A sign is looked for among the tokens only.
  rw [sign, sign, tokens_congr same]

/-- What is made of a chain is made of what is seen from above if its operands do not matter. -/
theorem chain_bind_congr {next : List Tree × List Operation → Except BuildError Expr}
    (same : List.Forall₂ SameFace left right)
    (only : ∀ operands operands' operations,
      next (operands, operations) = next (operands', operations)) :
    chain rule left >>= next = chain rule right >>= next := by
  -- Both sides go on with the same operators, or fail for the same reason.
  refine Alike.eq ((chain_alike same).bind fun split split' both => ?_) fun _ _ => id
  obtain ⟨operands, operations⟩ := split
  obtain ⟨operands', operations'⟩ := split'
  cases both
  rw [only operands operands']
  exact .refl fun _ _ => rfl

/-- A leaf is read from what is seen from above. -/
theorem readLeaf_congr (same : List.Forall₂ SameFace left right) :
    readLeaf separator rule left = readLeaf separator rule right := by
  -- There is one token, the same on both sides, or none that can be read.
  rw [readLeaf, readLeaf, onlyToken_congr same]

/-- Nodes with a fixed number of parts see the same if they look the same from above. -/
theorem assembleFixed_congr (same : List.Forall₂ SameFace left right) (parts : List Expr) :
    assembleFixed rule left parts = assembleFixed rule right parts := by
  -- Only a sign is read from the tokens, by the two rules that have one.
  cases rule <;> simp only [assembleFixed]
  all_goals rw [sign_congr same]

/-- A node is put together from its parts and from what it sees from above. -/
theorem assemble_congr (same : List.Forall₂ SameFace left right) (parts : List Expr) :
    assemble separator rule left parts = assemble separator rule right parts := by
  unfold assemble
  rw [readLeaf_congr same, assembleFixed_congr same]
  -- Rules that collect their parts look at nothing, and leaves only at their token.
  split
  · rfl
  split
  · rfl
  split
  -- Of a chain, only the operators go into what is put together.
  · exact chain_bind_congr same fun _ _ _ => rfl
  · rfl

/-- A descent goes by what a node sees from above and by what is read below it. -/
theorem descend_congr (same : List.Forall₂ SameFace left right)
    (below : descendAll separator left = descendAll separator right) :
    descend separator (.node rule left) = descend separator (.node rule right) := by
  unfold descend
  rw [readLeaf_congr same, sign_congr same, below]
  -- A descent looks at the tokens first and reads what is below afterwards.
  split
  · rfl
  split
  · exact chain_bind_congr same fun _ _ _ => rfl
  split
  · rfl
  -- The sign has been looked at before, and is read once more with the operand.
  · simp only [assembleFixed_congr same]

/-- An ascent goes by what a node sees from above and by what is read below it. -/
theorem ascend_congr (same : List.Forall₂ SameFace left right)
    (below : ascendAll separator left = ascendAll separator right) :
    ascend separator (.node rule left) = ascend separator (.node rule right) := by
  -- What is read below is the same, and so is what is seen from above.
  simp only [ascend, below, assemble_congr same]

/-! The nodes among the children, read one after the other. -/

/-- A descent reads the nodes among some trees from left to right. -/
theorem descendAll_eq_mapM (separator : Char) (trees : List Tree) :
    descendAll separator trees = (nodes trees).mapM (descend separator) := by
  induction trees with
  | nil => rfl
  | cons tree rest ih =>
    -- A token is passed over, and a node is read in front of the others.
    cases tree with
    | terminal text => rw [descendAll, ih, nodes_terminal]
    | node rule children => rw [descendAll, ih, nodes_node, List.mapM_cons]

/-- An ascent reads the nodes among some trees from left to right. -/
theorem ascendAll_eq_mapM (separator : Char) (trees : List Tree) :
    ascendAll separator trees = (nodes trees).mapM (ascend separator) := by
  induction trees with
  -- As on the way down, tokens are passed over.
  | nil => rfl
  | cons tree rest ih =>
    cases tree with
    | terminal text => rw [ascendAll, ih, nodes_terminal]
    | node rule children => rw [ascendAll, ih, nodes_node, List.mapM_cons]

/-- Of two trees that look and mean the same, either may be read among others. -/
theorem mapM_nodes_inside {read : Tree → Except BuildError Expr} {left right : Tree}
    (face : SameFace left right) (same : read left = read right) (before after : List Tree) :
    (nodes (before ++ left :: after)).mapM read = (nodes (before ++ right :: after)).mapM read := by
  -- They are the same token or two nodes.
  cases left <;> cases right <;> simp only [SameFace, text?, reduceCtorEq] at face
  -- A token is read by nobody.
  case terminal.terminal => simp only [nodes_append, nodes_terminal]
  -- The nodes in front of the place and behind it are read as before.
  case node.node => simp only [nodes_append, nodes_node, List.mapM_append, List.mapM_cons, same]

/-- Whether neither builder can tell two trees apart, wherever they stand. -/
structure Interchangeable (separator : Char) (left right : Tree) : Prop where
  /-- They look the same from above. -/
  face : SameFace left right
  /-- A descent reads the same from them. -/
  descend_eq : descend separator left = descend separator right
  /-- An ascent reads the same from them. -/
  ascend_eq : ascend separator left = ascend separator right

variable {tree tree' : Tree}

/-- Of two trees that cannot be told apart, either may be a child of a node. -/
theorem Interchangeable.inside (same : Interchangeable separator tree tree') (rule : Rule)
    (before after : List Tree) :
    Interchangeable separator (.node rule (before ++ tree :: after))
      (.node rule (before ++ tree' :: after)) := by
  have faces := sameFaces_inside same.face before after
  -- The parent sees the same, and what it reads below is read node by node.
  refine ⟨rfl, descend_congr faces ?_, ascend_congr faces ?_⟩
  · rw [descendAll_eq_mapM, descendAll_eq_mapM]
    exact mapM_nodes_inside same.face same.descend_eq before after
  · rw [ascendAll_eq_mapM, ascendAll_eq_mapM]
    exact mapM_nodes_inside same.face same.ascend_eq before after

/-- Of two trees that cannot be told apart, either may stand at any place of any tree. -/
theorem Interchangeable.plug (same : Interchangeable separator tree tree') (path : List Layer) :
    Interchangeable separator (plug path tree) (plug path tree') := by
  -- The induction goes from the place outwards, through one node after the other.
  induction path with
  | nil => exact same
  | cons layer inner ih => exact ih.inside layer.rule layer.before layer.after

/-! Levels. -/

/-- The only node of a level is the one that it is put around. -/
theorem nodes_content (level : Level) (rule : Rule) (children : List Tree) :
    nodes (level.content (.node rule children)) = [.node rule children] := by
  -- The other children of a level are tokens.
  cases level with
  | loose around passed before after => simp [Level.content]
  | bare => rfl

/-- A level has its tokens in order. -/
theorem tokensPass_level (level : Level) (rule : Rule) (children : List Tree) :
    tokensPass level.rule (level.content (.node rule children)) = true := by
  cases level with
  | loose around passed before after =>
    -- A level that is passed through reads no tokens at all.
    cases around <;> first | rfl | cases passed
  | bare around plain =>
    -- A chain of one operand has no operators, and there is no sign either.
    cases around <;> first | rfl | cases plain

/-- A level is put together from the one part that it has by handing that part on. -/
theorem assemble_level (level : Level) (rule : Rule) (children : List Tree) (expr : Expr) :
    assemble separator level.rule (level.content (.node rule children)) [expr] = .ok expr := by
  -- What is handed on does not depend on the tokens around it.
  cases level with
  | loose around passed before after => cases around <;> first | rfl | cases passed
  | bare around plain => cases around <;> first | rfl | cases plain

/-- A level around a node cannot be told from the node. -/
theorem interchangeable_level (level : Level) (rule : Rule) (children : List Tree) :
    Interchangeable separator (level.around (.node rule children)) (.node rule children) := by
  refine ⟨rfl, ?_, ?_⟩
  · -- The tokens are in order, so that a descent may as well read the node first.
    rw [Level.around, descend_of_tokensPass (tokensPass_level level rule children),
      descendAll_eq_mapM, nodes_content]
    cases read : descend separator (.node rule children) with
    | error error => simp [read]
    | ok expr => simp [read, assemble_level]
  · -- On the way up the node is read first anyway.
    rw [Level.around, ascend, ascendAll_eq_mapM, nodes_content]
    cases read : ascend separator (.node rule children) with
    | error error => simp [read]
    | ok expr => simp [read, assemble_level]

/-! A chain whose operands can be built means those operands, joined by the operators between. -/

section Chain

/-- Only nodes mean anything. -/
theorem isNode_of_ascend {tree : Tree} {expr : Expr} (read : ascend separator tree = .ok expr) :
    tree.isNode = true := by
  -- A token is refused wherever it stands alone.
  cases tree with
  | terminal text => cases read
  | node rule children => rfl

/-- Trees that are built one by one are built in a row. -/
theorem mapM_ascend {trees : List Tree} {exprs : List Expr}
    (built : List.Forall₂ (fun tree expr => ascend separator tree = .ok expr) trees exprs) :
    trees.mapM (ascend separator) = .ok exprs := by
  -- The first one is built, and then the others.
  induction built with
  | nil => rfl
  | cons first _ ih => simp [List.mapM_cons, first, ih]

/-- The operands of a chain are built on their own, and then joined. -/
theorem ascend_chain {rule : Rule} {first : Tree} {links : List (String × Tree)} {left : Expr}
    {exprs : List Expr} {operations : List Operation} (isChain : rule.isChain = true)
    (operators : List.Forall₂ (fun link operation => chainOperation rule link.1 = .ok operation)
      links operations)
    (head : ascend separator first = .ok left)
    (others : List.Forall₂ (fun link expr => ascend separator link.2 = .ok expr) links exprs) :
    ascend separator (.node rule (first :: linked links)) =
      joinChain rule (left :: exprs) operations := by
  -- What is known of the operands goes with the places of the operators in front of them.
  have each : List.Forall₂ (fun link expr => link.2.isNode = true ∧
      ascend separator link.2 = .ok expr) links exprs :=
    others.imp fun _ _ read => ⟨isNode_of_ascend read, read⟩
  -- Each operand is a node, as the chain demands, for it could be built.
  obtain ⟨nodes, -⟩ := (List.forall₂_and_left _ _).mp each
  have accepted := chain_linked (isNode_of_ascend head) operators nodes
  -- The operators between the operands are passed over.
  have read : ascendAll separator (first :: linked links) = .ok (left :: exprs) := by
    rw [ascendAll_eq_mapM, ← chain_operands accepted]
    exact mapM_ascend (.cons head (List.forall₂_map_left_iff.mpr others))
  rw [ascend, read, ok_bind, assemble_of_chain isChain accepted]

end Chain

end Build

namespace Builder

open Tree Build

/-- Trees that cannot be told apart are built alike. -/
theorem build_congr {separator : Char} {tree tree' : Tree}
    (same : Interchangeable separator tree tree') (builder : Builder) :
    builder.build separator tree = builder.build separator tree' := by
  -- Trees that look the same from above are the same token, or both are nodes.
  have face := same.face
  cases tree <;> cases tree' <;> simp only [SameFace, text?, reduceCtorEq] at face
  -- A token alone is refused by either builder.
  case terminal.terminal => rfl
  case node.node =>
    cases builder with
    | listener =>
      -- The stack does what an ascent does.
      simp only [build, stackUp_eq_ascend]
      exact same.ascend_eq
    | visitor => exact same.descend_eq

/-- However often a node is put into nodes that are passed through, it is built as it is. -/
theorem build_nest {rule : Rule} (passed : rule.passesThrough = true) (before after : List String)
    (times : Nat) (inner : Rule) (children : List Tree) (builder : Builder) (separator : Char) :
    builder.build separator (nest rule before after times (.node inner children)) =
      builder.build separator (.node inner children) := by
  -- Each step puts one more level around the node, so the node stays quantified over.
  induction times generalizing inner children with
  | zero => rfl
  | succ times ih =>
    -- The innermost level goes first, for it is the one that is put around first.
    rw [nest, ih]
    exact build_congr (interchangeable_level (.loose rule passed before after) inner children)
      builder

/--
A level that adds nothing may be put around any node of any tree, or taken away.

Whichever builder is at work, it comes to the same expression or fails with the same error, also
where the tree is out of order elsewhere; so levels may be added and removed in any number and
anywhere.
-/
theorem build_elided (builder : Builder) (separator : Char) :
    (∀ (path : List Layer) (level : Level) (rule : Rule) (children : List Tree),
      builder.build separator (plug path (level.around (.node rule children))) =
        builder.build separator (plug path (.node rule children))) ∧
    (∀ tree tree', Relation.EqvGen Padded tree tree' →
      builder.build separator tree = builder.build separator tree') := by
  -- One level around one node is the step that all is made of.
  have once (path : List Layer) (level : Level) (rule : Rule) (children : List Tree) :
      builder.build separator (plug path (level.around (.node rule children))) =
        builder.build separator (plug path (.node rule children)) :=
    build_congr ((interchangeable_level level rule children).plug path) builder
  refine ⟨once, fun tree tree' linked => ?_⟩
  -- One level after the other is put around a node or taken away.
  induction linked with
  | rel tree padded step =>
    obtain ⟨path, level, rule, children, rfl, rfl⟩ := step
    exact (once path level rule children).symm
  -- Where nothing changes, there is nothing to show.
  | refl tree => rfl
  | symm tree tree' _ ih => exact ih.symm
  | trans tree between tree' _ _ first second => exact first.trans second

/-- A sum whose second operand is no number. -/
def brokenSum : Tree :=
  .node .sum [.node .integer [.terminal "1"], .terminal "+", .node .integer [.terminal "x"]]

/-- The same sum as an expression, with the second operand in parentheses. -/
def paddedBrokenSum : Tree :=
  .node .expression [.node .sum [.node .integer [.terminal "1"], .terminal "+",
    .node .factor [.terminal "(", .node .integer [.terminal "x"], .terminal ")"]]]

/-- The two levels make no difference to the error. -/
theorem build_elided_brokenSum :
    Relation.EqvGen Padded brokenSum paddedBrokenSum ∧
      listener.build '.' brokenSum = listener.build '.' paddedBrokenSum ∧
      listener.build '.' paddedBrokenSum = .error (.badNumber "x" .badDigit) := by
  let inner : Tree := .node .sum [.node .integer [.terminal "1"], .terminal "+",
    .node .factor [.terminal "(", .node .integer [.terminal "x"], .terminal ")"]]
  -- The parentheses go around the second operand, and then the expression around the sum.
  have parentheses : Padded brokenSum inner :=
    ⟨[⟨.sum, [.node .integer [.terminal "1"], .terminal "+"], []⟩],
      .loose .factor rfl ["("] [")"], .integer, [.terminal "x"], rfl, rfl⟩
  have whole : Padded inner paddedBrokenSum := ⟨[], .loose .expression rfl [] [], _, _, rfl, rfl⟩
  have linked := (Relation.EqvGen.rel _ _ parentheses).trans _ _ _ (.rel _ _ whole)
  exact ⟨linked, (build_elided listener '.').2 _ _ linked, by rfl⟩

end Builder

end Scriptlet

import Scriptlet.Build.Stack
import Scriptlet.Proofs.Outcome

/-!
Building from the bottom up, without a stack.

A walk of the stacking builder through a node puts the ascent's expression on top of any stack.
-/

namespace Scriptlet

namespace Tree

/-- A token is not among the nodes. -/
@[simp] theorem nodes_terminal (text : String) (rest : List Tree) :
    nodes (.terminal text :: rest) = nodes rest := rfl

/-- A node stays at its place among the nodes. -/
@[simp] theorem nodes_node (rule : Rule) (children rest : List Tree) :
    nodes (.node rule children :: rest) = .node rule children :: nodes rest := rfl

end Tree

namespace Build

/-- The meaning of a node whose parts have been read, its own tokens looked at last. -/
def assemble (separator : Char) (rule : Rule) (children : List Tree) (parts : List Expr) :
    Except BuildError Expr :=
  if rule.collects then assembleAny rule parts
  else if rule.isLexical then readLeaf separator rule children
  else if rule.isChain then do
    let (_, operations) ← chain rule children
    joinChain rule parts operations
  else assembleFixed rule children parts

mutual

/-- The expression that a node means, everything below it read before its own tokens. -/
def ascend (separator : Char) : Tree → Except BuildError Expr
  | .terminal text => .error (.malformed .sequence (.strayToken text))
  | .node rule children => do
    let parts ← ascendAll separator children
    assemble separator rule children parts

/-- The expressions that the nodes among some trees mean, from left to right. -/
def ascendAll (separator : Char) : List Tree → Except BuildError (List Expr)
  | [] => .ok []
  | .terminal _ :: rest => ascendAll separator rest
  | .node rule children :: rest => do
    let expr ← ascend separator (.node rule children)
    let exprs ← ascendAll separator rest
    return expr :: exprs

end

/-- Every node among some trees gives one part. -/
theorem ascendAll_length {separator : Char} {trees : List Tree} {parts : List Expr}
    (read : ascendAll separator trees = .ok parts) :
    parts.length = (Tree.nodes trees).length := by
  -- Tokens are passed over on both sides.
  induction trees generalizing parts with
  | nil =>
    simp only [ascendAll, Except.ok.injEq] at read
    subst parts
    rfl
  | cons tree rest ih =>
    cases tree with
    -- A token gives no part.
    | terminal text => exact ih read
    | node rule children =>
      simp only [ascendAll, bind_eq_ok, pure_eq_ok, Except.ok.injEq] at read
      -- A node gives one, and the rest as many as there are nodes in it.
      obtain ⟨expr, _, exprs, tail, rfl⟩ := read
      simp [ih tail]

/-- The operands of a chain are the nodes among its children. -/
theorem chainFrom_operands {rule : Rule} {children operands : List Tree}
    {operations : List Operation} {position : Nat}
    (split : chainFrom rule position children = .ok (operands, operations)) :
    operands = Tree.nodes children := by
  -- Each position keeps a node or reads a token, unless the chain is refused there.
  induction children generalizing position operands operations with
  | nil =>
    -- Without children there are no operands.
    simp only [chainFrom, Except.ok.injEq, Prod.mk.injEq] at split
    exact split.1.symm
  | cons child rest ih =>
    cases child with
    | node inner below =>
      simp only [chainFrom] at split
      -- An operand is refused where an operator has to stand.
      split at split
      · simp at split
      · simp only [bind_eq_ok, pure_eq_ok, Except.ok.injEq, Prod.mk.injEq] at split
        obtain ⟨found, tail, rfl, -⟩ := split
        rw [ih tail, Tree.nodes_node]
    | terminal text =>
      -- So is an operator in the place of an operand.
      simp only [chainFrom] at split
      split at split
      · simp at split
      · simp only [bind_eq_ok, pure_eq_ok, Except.ok.injEq, Prod.mk.injEq] at split
        obtain ⟨_, -, found, tail, rfl, -⟩ := split
        rw [ih tail, Tree.nodes_terminal]

/-- A chain that is accepted has the nodes among its children as operands. -/
theorem chain_operands {rule : Rule} {children operands : List Tree} {operations : List Operation}
    (accepted : chain rule children = .ok (operands, operations)) :
    operands = Tree.nodes children := by
  -- Counting the operands changes nothing of them.
  simp only [chain, bind_eq_ok] at accepted
  obtain ⟨⟨nodes, signs⟩, parted, accepted⟩ := accepted
  simp only at accepted
  split at accepted
  · simp at accepted
  · simp only [pure_eq_ok, Except.ok.injEq, Prod.mk.injEq] at accepted
    rw [← accepted.1]
    exact chainFrom_operands parted

/-- Entries without a mark among them hold just their expressions. -/
theorem allBuilt?_built (exprs : List Expr) : allBuilt? (exprs.map .built) = some exprs := by
  -- No entry stops the search, as none of them is a mark.
  induction exprs with
  | nil => rfl
  | cons expr rest ih => simp [allBuilt?, ih]

/-- Everything above a mark is found, the newest entry last. -/
theorem aboveMark?_built (exprs above : List Expr) (below : List Entry) :
    aboveMark? above (exprs.map .built ++ .mark :: below) =
      some (exprs.reverse ++ above, below) := by
  -- The entry met first is the newest one, so it goes to the front of what was met before.
  induction exprs generalizing above with
  | nil => rfl
  | cons expr rest ih => simp [aboveMark?, ih]

/-- The expressions put on a stack last are taken in the order in which they were put there. -/
theorem take_built (rule : Rule) (exprs : List Expr) (below : List Entry) :
    (take rule exprs.length).run ((exprs.map .built).reverse ++ below) = .ok exprs below := by
  -- Of the reversed entries as many are taken as there are expressions, which are all of them.
  have top : ((exprs.map Entry.built).reverse ++ below).take exprs.length =
      (exprs.map .built).reverse := by simp
  have rest : ((exprs.map Entry.built).reverse ++ below).drop exprs.length = below := by simp
  -- There are enough of them, so that none is found missing.
  have whole : ¬(exprs.map Entry.built).reverse.length < exprs.length := by simp
  simp only [take, EStateM.run_bind, EStateM.run_get, top, rest, if_neg whole,
    List.reverse_reverse, allBuilt?_built]
  rfl

/-- All expressions above the nearest mark are taken, and the mark with them. -/
theorem takeToMark_built (rule : Rule) (exprs : List Expr) (below : List Entry) :
    (takeToMark rule).run ((exprs.map .built).reverse ++ .mark :: below) = .ok exprs below := by
  -- The newest entry comes first on the stack, so that the search starts with the last expression.
  have found := aboveMark?_built exprs.reverse [] below
  simp only [List.map_reverse, List.reverse_reverse, List.append_nil] at found
  simp only [takeToMark, EStateM.run_bind, EStateM.run_get, found]
  rfl

/-- The stack on which the parts of a node are put. -/
def openedBy (rule : Rule) (stack : List Entry) : List Entry :=
  if rule.collects then .mark :: stack else stack

/-- Whether a run ends as an outcome says: what it yields is kept, and a failure leaves anything. -/
def EndsAs {α : Type} (ended : EStateM.Result BuildError (List Entry) α)
    (outcome : Except BuildError α) (stack : List Entry) : Prop :=
  match outcome with
  | .ok result => ended = .ok result stack
  | .error error => ∃ left, ended = .error error left

/-- Whether a walk ends as the reading of its parts says: they lie on top, or anything is left. -/
def Puts (ended : EStateM.Result BuildError (List Entry) Unit)
    (read : Except BuildError (List Expr)) (stack : List Entry) : Prop :=
  match read with
  | .ok parts => ended = .ok () ((parts.map .built).reverse ++ stack)
  | .error error => ∃ left, ended = .error error left

/-- A leaf that can be read holds no nodes. -/
theorem nodes_of_readLeaf {separator : Char} {rule : Rule} {children : List Tree} {expr : Expr}
    (read : readLeaf separator rule children = .ok expr) : Tree.nodes children = [] := by
  -- What is read is one token, and a token is no node.
  simp only [readLeaf, bind_eq_ok] at read
  obtain ⟨text, only, -⟩ := read
  unfold onlyToken at only
  split at only
  · rfl
  · simp at only

/-- Taking over an outcome does nothing to the stack. -/
theorem ofExcept_endsAs {α : Type} (outcome : Except BuildError α) (stack : List Entry) :
    EndsAs ((Stacking.ofExcept outcome).run stack) outcome stack := by
  -- A failure leaves the stack as it is, which is one way to leave anything.
  cases outcome with
  | ok result => rfl
  | error error => exact ⟨stack, rfl⟩

/-- A node whose parts lie on top of a stack is put together from them, and they are gone. -/
theorem reduce_endsAs {separator : Char} {children : List Tree} {parts : List Expr}
    (read : ascendAll separator children = .ok parts) (rule : Rule) (stack : List Entry) :
    EndsAs ((reduce separator rule children).run
        ((parts.map .built).reverse ++ openedBy rule stack))
      (assemble separator rule children parts) stack := by
  -- The builder asks for as many parts as there are nodes below, and so many there are.
  have count := ascendAll_length read
  unfold reduce assemble openedBy
  by_cases collects : rule.collects = true
  · -- The parts lie above the node's own mark.
    simp only [if_pos collects, EStateM.run_bind, takeToMark_built]
    exact ofExcept_endsAs _ _
  simp only [if_neg collects]
  by_cases lexical : rule.isLexical = true
  · -- A leaf looks at its tokens and takes nothing from the stack.
    simp only [if_pos lexical]
    cases leaf : readLeaf separator rule children with
    | error error => exact ⟨_, rfl⟩
    | ok expr =>
      -- A leaf that can be read has no parts, so there is nothing to take.
      have none : parts = [] := List.length_eq_zero_iff.mp (by
        rw [count, nodes_of_readLeaf leaf]
        rfl)
      subst parts
      rfl
  simp only [if_neg lexical]
  by_cases joined : rule.isChain = true
  · -- A chain reads its operators first, and then takes its operands.
    simp only [if_pos joined, EStateM.run_bind]
    cases accepted : chain rule children with
    | error error => exact ⟨_, rfl⟩
    | ok result =>
      -- The operands of the chain are the nodes that the parts come from.
      have operands : result.1.length = parts.length := by rw [chain_operands accepted, count]
      simp only [Stacking.ofExcept, EStateM.run_pure, operands, take_built, ok_bind]
      exact ofExcept_endsAs _ _
  · -- All other nodes take one part for each node below them.
    simp only [if_neg joined, ← count, EStateM.run_bind, take_built]
    exact ofExcept_endsAs _ _

/-- The parts of trees in a row are the parts of the first one and those of the others. -/
theorem ascendAll_cons (separator : Char) (tree : Tree) (rest : List Tree) :
    ascendAll separator (tree :: rest) = (do
      let front ← ascendAll separator [tree]
      let back ← ascendAll separator rest
      return front ++ back) := by
  cases tree with
  -- A token has no parts to put in front.
  | terminal text => cases back : ascendAll separator rest <;> simp [ascendAll, back]
  | node rule children =>
    -- Either side fails where the first tree does, and next where the others do.
    cases front : ascend separator (.node rule children) <;>
      cases back : ascendAll separator rest <;> simp [ascendAll, front, back]

/-- A node that is entered puts down its mark, if its rule has one. -/
theorem run_enter (separator : Char) (rule : Rule) (children : List Tree) (stack : List Entry) :
    ((stacker separator).enter rule children).run stack = .ok () (openedBy rule stack) := by
  unfold stacker openedBy
  -- Only rules that collect have a mark.
  by_cases collects : rule.collects = true
  · simp only [if_pos collects, EStateM.run_modify]
  · simp only [if_neg collects, EStateM.run_pure]

mutual

/-- A walk through a tree puts its parts on top of any stack, or fails. -/
theorem walk_puts (separator : Char) (stack : List Entry) : (tree : Tree) →
    Puts ((tree.walk (stacker separator)).run stack) (ascendAll separator [tree]) stack
  | .terminal text => rfl
  | .node rule children => by
    -- The walk enters the node, puts its parts on what it opened, and then reduces them.
    have below := walkAll_puts separator (openedBy rule stack) children
    simp only [Tree.walk, EStateM.run_bind, run_enter]
    simp only [ascendAll, ascend]
    cases read : ascendAll separator children with
    | error error =>
      -- A failure below the node is the failure of the node.
      simp only [Puts, read] at below
      obtain ⟨left, failed⟩ := below
      exact ⟨left, by simp only [failed]⟩
    | ok parts =>
      -- The parts of the node lie on top of what it opened when the walk comes back to it.
      simp only [Puts, read] at below
      have reduced := reduce_endsAs read rule stack
      simp only [below, ok_bind]
      cases built : assemble separator rule children parts with
      | error error =>
        -- Put together in vain, the node leaves anything.
        simp only [EndsAs, built] at reduced
        obtain ⟨left, failed⟩ := reduced
        exact ⟨left, by simp only [stacker, EStateM.run_bind, failed]⟩
      | ok expr =>
        -- The expression takes the place of the parts.
        simp only [EndsAs, built] at reduced
        simp [Puts, stacker, EStateM.run_bind, reduced]

/-- A walk through trees puts their parts on top of any stack, or fails. -/
theorem walkAll_puts (separator : Char) (stack : List Entry) : (trees : List Tree) →
    Puts ((Tree.walkAll (stacker separator) trees).run stack) (ascendAll separator trees) stack
  | [] => rfl
  | tree :: rest => by
    -- The first tree goes on the stack before the others.
    have first := walk_puts separator stack tree
    rw [ascendAll_cons]
    simp only [Tree.walkAll, EStateM.run_bind]
    cases front : ascendAll separator [tree] with
    | error error =>
      -- Its failure ends the walk.
      simp only [Puts, front] at first
      obtain ⟨left, failed⟩ := first
      exact ⟨left, by simp only [failed]⟩
    | ok parts =>
      simp only [Puts, front] at first
      -- The others are put on top of what the first one has left.
      have others := walkAll_puts separator ((parts.map .built).reverse ++ stack) rest
      simp only [first, ok_bind]
      cases back : ascendAll separator rest with
      -- What fails behind the first tree fails the walk.
      | error error => simpa only [Puts, back, error_bind] using others
      | ok exprs =>
        -- Its parts are covered by those of the others.
        simp only [Puts, back] at others
        simp [Puts, others]

end

/-- The stack and the ascent build the same expression, or fail with the same error. -/
theorem stackUp_eq_ascend (separator : Char) (rule : Rule) (children : List Tree) :
    stackUp separator rule (.node rule children) = ascend separator (.node rule children) := by
  -- On an empty stack, the one expression put on top is the only one.
  have walked := walk_puts separator [] (.node rule children)
  simp only [ascendAll] at walked
  cases read : ascend separator (.node rule children) with
  | error error =>
    -- A walk that fails has nothing to take off the stack.
    simp only [Puts, read, error_bind] at walked
    obtain ⟨left, failed⟩ := walked
    simp only [stackUp, failed]
  | ok expr =>
    simp only [Puts, read, ok_bind, pure_eq_ok] at walked
    simp [stackUp, walked, onlyBuilt]

end Build

end Scriptlet

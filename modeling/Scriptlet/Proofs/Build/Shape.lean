import Scriptlet.Proofs.Build.Agreement
import Scriptlet.Proofs.Expr.Shape

/-!
What is built is in shape.

Main statement: whatever the tree, every node of an expression that a builder makes of it has the
shape that its operation requires, so the expression passes the check in front of evaluation.
-/

namespace Scriptlet

namespace Expr

/-- Whether every node of an expression has the shape that its operation requires. -/
def InShape (expr : Expr) : Prop :=
  expr.AllNodes WellShaped

variable {operation : Operation} {name : Option Name} {children : List Expr}

/-- A node of the right shape over children in shape is in shape all through. -/
theorem inShape_node (shaped : WellShaped operation name children)
    (parts : ∀ child ∈ children, child.InShape) : (node operation name children).InShape :=
  ⟨shaped, (allNodesIn_iff children).mpr parts⟩

/-- Leaves have no shape that could be wrong. -/
theorem inShape_leaf (bound : Name) : (symbol bound).InShape :=
  trivial

/-- A sequence in shape has no name. -/
theorem InShape.sequence_eq {expr : Expr} (inShape : expr.InShape)
    (sequence : expr.operation? = some .sequence) : ∃ items, expr = plain .sequence items := by
  -- Only calls and definitions may have names.
  cases expr with
  | literal | symbol => cases sequence
  | node operation name items =>
    simp only [operation?, Option.some.injEq] at sequence
    subst sequence
    cases name with
    | none => exact ⟨items, rfl⟩
    | some name => rcases inShape.1.named rfl with other | other <;> cases other

/-- An expression in shape passes the check in front of evaluation. -/
theorem InShape.validate_eq_ok {expr : Expr} (inShape : expr.InShape) :
    expr.validate = .ok () := by
  -- What is checked is a part of the shape.
  rw [validate_eq_ok_iff]
  exact AllNodes.imp (fun _ _ _ shaped => shaped.toChecked) expr inShape

/-- A node whose operation asks for no more than the number of its children is in shape. -/
theorem inShape_plain (count : operation.arity.accepts children.length = true)
    (inner : operation ≠ .symbol) (bind : operation ≠ .bind) (loop : operation ≠ .loop)
    (select : operation ≠ .select) (define : operation ≠ .define) (call : operation ≠ .call)
    (parts : ∀ child ∈ children, child.InShape) : (plain operation children).InShape := by
  -- What other operations ask for does not concern this one.
  refine inShape_node ?_ parts
  exact {
    inner := inner
    count := count
    target := fun same => absurd same bind
    arms := fun same => absurd same select
    parts := fun same => absurd same define
    callee := fun same => absurd same call
    body := fun same => absurd same loop
    branches := fun same => absurd same select
    anonymous := fun same => absurd same call
    named := nofun }

end Expr

namespace Build

open Expr

/-! Chains and signs. -/

/-- The operators of chains take two operands, and ask nothing of them. -/
def Infix (operation : Operation) : Prop :=
  operation.arity = .fixed 2 ∧ operation ≠ .bind ∧ operation ≠ .loop

/-- What a rule allows in its chains stands between two operands. -/
theorem infix_of_allows {rule : Rule} {operation : Operation}
    (allowed : allows rule operation = true) : Infix operation := by
  unfold allows at allowed
  -- One case for each rule that allows anything; the operations that it allows are listed in it.
  split at allowed <;> grind [Infix, Operation.arity]

/-- An operator between two operands in shape is in shape. -/
theorem Infix.inShape {operation : Operation} (between : Infix operation) {left right : Expr}
    (first : left.InShape) (second : right.InShape) :
    (plain operation [left, right]).InShape := by
  -- It takes two operands, and neither binds nor repeats.
  obtain ⟨two, bind, loop⟩ := between
  have count : operation.arity.accepts [left, right].length = true := by
    rw [two]
    rfl
  -- An operation of two operands is none of those that take any number or none at all.
  refine inShape_plain count ?_ bind loop ?_ ?_ ?_ (by simp [first, second]) <;>
    · rintro rfl
      cases two

/-- An operator that is read is one that the rule allows. -/
theorem allows_of_chainOperation {rule : Rule} {text : String} {operation : Operation}
    (read : chainOperation rule text = .ok operation) : allows rule operation = true := by
  -- The word is an operator, and it is allowed.
  unfold chainOperation at read
  split at read
  · split at read
    case isTrue allowed =>
      cases read
      exact allowed
    case isFalse => cases read
  · cases read

/-- The operations of a chain are such as the rule allows. -/
theorem allows_of_chainFrom {rule : Rule} {children operands : List Tree}
    {operations : List Operation} {position : Nat}
    (split : chainFrom rule position children = .ok (operands, operations)) :
    ∀ operation ∈ operations, allows rule operation = true := by
  -- Each position keeps an operand or reads an operator, unless the chain is refused there.
  induction children generalizing position operands operations with
  | nil =>
    simp only [chainFrom, Except.ok.injEq, Prod.mk.injEq] at split
    simp [← split.2]
  | cons child rest ih =>
    cases child with
    | node inner below =>
      simp only [chainFrom] at split
      split at split
      · simp at split
      · simp only [bind_eq_ok, pure_eq_ok, Except.ok.injEq, Prod.mk.injEq] at split
        obtain ⟨found, tail, -, rfl⟩ := split
        exact ih tail
    | terminal text =>
      simp only [chainFrom] at split
      split at split
      · simp at split
      · simp only [bind_eq_ok, pure_eq_ok, Except.ok.injEq, Prod.mk.injEq] at split
        obtain ⟨operation, read, found, tail, -, rfl⟩ := split
        simpa [allows_of_chainOperation read] using ih tail

/-- An accepted chain has one operand more than operations, and its rule allows them all. -/
theorem chain_eq_ok {rule : Rule} {children operands : List Tree} {operations : List Operation}
    (accepted : chain rule children = .ok (operands, operations)) :
    operands.length = operations.length + 1 ∧
      ∀ operation ∈ operations, allows rule operation = true := by
  -- The row is parted first, and then operands are counted against operators.
  simp only [chain, bind_eq_ok] at accepted
  obtain ⟨⟨nodes, signs⟩, parted, accepted⟩ := accepted
  simp only at accepted
  split at accepted
  · -- Then it would have been refused.
    simp at accepted
  case isFalse lengths =>
    simp only [pure_eq_ok, Except.ok.injEq, Prod.mk.injEq] at accepted
    obtain ⟨rfl, rfl⟩ := accepted
    exact ⟨by simpa using lengths, allows_of_chainFrom parted⟩

/-- The operators of an accepted chain stand between two operands. -/
theorem infix_of_chain {rule : Rule} {children operands : List Tree} {operations : List Operation}
    (accepted : chain rule children = .ok (operands, operations)) :
    ∀ operation ∈ operations, Infix operation :=
  fun operation member => infix_of_allows ((chain_eq_ok accepted).2 operation member)

section Nests

variable {holds : Expr → Prop} {operations : List Operation} {left : Expr} {operands : List Expr}

/-- What the operators of a chain pass on from their operands holds of them nested to the left. -/
theorem nestLeft_induct
    (step : ∀ operation ∈ operations, ∀ left right, holds left → holds right →
      holds (plain operation [left, right]))
    (first : holds left) (others : ∀ operand ∈ operands, holds operand) :
    holds (nestLeft left operations operands) := by
  -- What has been nested so far is the left operand of the next operator.
  induction operations generalizing left operands with
  | nil => cases operands <;> exact first
  | cons operation operations ih =>
    cases operands with
    | nil => exact first
    | cons right operands =>
      rw [List.forall_mem_cons] at step others
      exact ih step.2 (step.1 _ _ first others.1) others.2

/-- What the operators of a chain pass on from their operands holds of them nested to the right. -/
theorem nestRight_induct
    (step : ∀ operation ∈ operations, ∀ left right, holds left → holds right →
      holds (plain operation [left, right]))
    (first : holds left) (others : ∀ operand ∈ operands, holds operand) :
    holds (nestRight left operations operands) := by
  -- The first operand stays on the left, and all others are nested to its right.
  induction operations generalizing left operands with
  | nil => cases operands <;> exact first
  | cons operation operations ih =>
    cases operands with
    | nil => exact first
    | cons right operands =>
      rw [List.forall_mem_cons] at step others
      exact step.1 _ _ first (ih step.2 others.1 others.2)

end Nests

/-- A chain of operands in shape is in shape. -/
theorem inShape_joinChain {rule : Rule} {operands : List Expr} {operations : List Operation}
    {expr : Expr} (between : ∀ operation ∈ operations, Infix operation)
    (parts : ∀ operand ∈ operands, operand.InShape)
    (built : joinChain rule operands operations = .ok expr) : expr.InShape := by
  cases operands with
  | nil => simp [joinChain] at built
  -- Without operands there is nothing to join.
  | cons first others =>
    rw [List.forall_mem_cons] at parts
    have step : ∀ operation ∈ operations, ∀ left right, left.InShape → right.InShape →
        (plain operation [left, right]).InShape :=
      fun operation member left right => (between operation member).inShape
    simp only [joinChain] at built
    split at built
    · -- As many operands as operators are refused.
      simp at built
    · -- Powers nest to the right, and everything else to the left.
      split at built <;> cases built
      · exact nestRight_induct step parts.1 parts.2
      · exact nestLeft_induct step parts.1 parts.2

/-- An operand behind its sign is in shape. -/
theorem inShape_applySign {rule : Rule} {children : List Tree} {operation : Option Operation}
    {operand : Expr} (read : sign rule children = .ok operation) (part : operand.InShape) :
    (applySign operation operand).InShape := by
  have one : ∀ child ∈ [operand], child.InShape := by simp [part]
  -- There are two signs, one for each rule that reads one.
  cases operation with
  | none => exact part
  | some operation =>
    have signs : operation = .negation ∨ operation = .negate := by
      unfold sign signOf? at read
      grind
    rcases signs with rfl | rfl <;>
      exact inShape_plain rfl (by simp) (by simp) (by simp) (by simp) (by simp) (by simp) one

/-! Nodes with a fixed number of parts. -/

/-- The one part of a node is in shape if its parts are. -/
theorem inShape_one {rule : Rule} {parts : List Expr} {expr : Expr}
    (inShape : ∀ part ∈ parts, part.InShape) (only : one rule parts = .ok expr) :
    expr.InShape := by
  -- There is one part, or the node is refused.
  unfold one at only
  split at only
  · cases only
    exact inShape _ List.mem_cons_self
  · cases only

/-- The two parts of a node are all that it has. -/
theorem parts_of_two {rule : Rule} {parts : List Expr} {first second : Expr}
    (both : two rule parts = .ok (first, second)) : parts = [first, second] := by
  -- Any other number of parts is refused.
  unfold two at both
  split at both <;> simp_all

/-- What a name is: a leaf. -/
theorem eq_symbol_of_isSome {expr : Expr} (named : expr.symbol?.isSome = true) :
    ∃ name, expr = .symbol name := by
  -- Constants and nodes are not names.
  cases expr with
  | symbol name => exact ⟨name, rfl⟩
  | literal | node => cases named

/-- A binding in shape binds a name. -/
theorem inShape_bind {target value expr : Expr} (part : value.InShape)
    (built : bind target value = .ok expr) : expr.InShape := by
  -- The target is a name, or the binding is refused.
  unfold bind at built
  split at built
  case isFalse => cases built
  case isTrue named =>
    obtain ⟨name, rfl⟩ := eq_symbol_of_isSome named
    cases built
    refine inShape_node ?_ (by simp [part, inShape_leaf])
    exact {
      inner := nofun
      count := rfl
      target := fun _ => ⟨name, value, rfl⟩
      arms := nofun
      parts := nofun
      callee := nofun
      body := nofun
      branches := nofun
      anonymous := nofun
      named := nofun }

/-- A loop in shape repeats a sequence. -/
theorem inShape_loop {condition body expr : Expr} (first : condition.InShape)
    (second : body.InShape) (built : loop condition body = .ok expr) : expr.InShape := by
  -- The body is a sequence, or the loop is refused.
  unfold loop at built
  split at built
  case isFalse => cases built
  case isTrue sequence =>
    obtain ⟨items, rfl⟩ := second.sequence_eq (beq_iff_eq.mp sequence)
    cases built
    refine inShape_node ?_ (by simp [first, second])
    exact {
      inner := nofun
      count := rfl
      target := nofun
      arms := nofun
      parts := nofun
      callee := nofun
      body := fun _ => ⟨condition, items, rfl⟩
      branches := nofun
      anonymous := nofun
      named := nofun }

/-- A pair of expressions in shape is in shape. -/
theorem inShape_pair {first second : Expr} (left : first.InShape) (right : second.InShape) :
    (plain .pair [first, second]).InShape := by
  -- A pair is like an operator between its parts.
  have between : Infix .pair := ⟨rfl, nofun, nofun⟩
  exact between.inShape left right

/-- Expressions in a row are in shape if each of them is. -/
theorem inShape_sequence {items : List Expr} (parts : ∀ item ∈ items, item.InShape) :
    (plain .sequence items).InShape :=
  inShape_plain rfl nofun nofun nofun nofun nofun nofun parts

/-- A block in shape holds a sequence, be it its own. -/
theorem inShape_block {parts : List Expr} {expr : Expr} (inShape : ∀ part ∈ parts, part.InShape)
    (built : block parts = .ok expr) : expr.InShape := by
  -- Without parts, the sequence is empty; one sequence is taken as it is, and anything else is put
  -- into one.
  unfold block at built
  split at built
  · cases built
    exact inShape_sequence inShape
  · split at built <;> cases built
    · exact inShape _ List.mem_cons_self
    · exact inShape_sequence inShape
  · cases built

/-- A node with a fixed number of parts in shape is in shape. -/
theorem inShape_assembleFixed {rule : Rule} {children : List Tree} {parts : List Expr}
    {expr : Expr} (inShape : ∀ part ∈ parts, part.InShape)
    (built : assembleFixed rule children parts = .ok expr) : expr.InShape := by
  -- The rules with a fixed number of parts come in their order: binding, loop, parameter, block,
  -- the two signs, and all others.
  unfold assembleFixed at built
  split at built
  · obtain ⟨⟨target, value⟩, both, built⟩ := bind_eq_ok.mp built
    rw [parts_of_two both] at inShape
    exact inShape_bind (inShape value (by simp)) built
  · obtain ⟨⟨condition, body⟩, both, built⟩ := bind_eq_ok.mp built
    rw [parts_of_two both] at inShape
    exact inShape_loop (inShape condition (by simp)) (inShape body (by simp)) built
  · obtain ⟨⟨name, type⟩, both, built⟩ := bind_eq_ok.mp built
    rw [parts_of_two both] at inShape
    -- A parameter is a pair, if it is one at all.
    simp only [parameter] at built
    split at built <;> cases built
    exact inShape_pair (inShape name (by simp)) (inShape type (by simp))
  · exact inShape_block inShape built
  · obtain ⟨operation, read, built⟩ := bind_eq_ok.mp built
    obtain ⟨operand, only, built⟩ := bind_eq_ok.mp built
    cases built
    exact inShape_applySign read (inShape_one inShape only)
  · obtain ⟨operation, read, built⟩ := bind_eq_ok.mp built
    obtain ⟨operand, only, built⟩ := bind_eq_ok.mp built
    cases built
    exact inShape_applySign read (inShape_one inShape only)
  · exact inShape_one inShape built

/-! Nodes with any number of parts. -/

/-- A definition that has all its parts is in shape if they are. -/
theorem inShape_define {rule : Rule} {name : Option Name} {parts : List Expr} {expr : Expr}
    (inShape : ∀ part ∈ parts, part.InShape) (built : define rule name parts = .ok expr) :
    expr.InShape := by
  -- The parts are those of a definition, or there is none.
  unfold define at built
  split at built
  case h_2 => cases built
  case h_1 definition found =>
    cases built
    refine inShape_node ?_ inShape
    exact {
      inner := nofun
      count := rfl
      target := nofun
      arms := nofun
      parts := fun _ => ⟨definition, found⟩
      callee := nofun
      body := nofun
      branches := nofun
      anonymous := nofun
      named := fun _ => .inl rfl }

/-- A definition behind a name is in shape if its parts are. -/
theorem inShape_defineNamed {parts : List Expr} {expr : Expr}
    (inShape : ∀ part ∈ parts, part.InShape) (built : defineNamed parts = .ok expr) :
    expr.InShape := by
  -- The first part has to be a name, and the definition is made of the others.
  unfold defineNamed at built
  split at built
  · cases built
  · exact inShape_define (fun part member => inShape part (List.mem_cons_of_mem _ member)) built
  · cases built

/-- Neighbours that are paired up make pairs of two parts each, all in shape. -/
theorem pairs_of_pairUp? {parts arms : List Expr} (inShape : ∀ part ∈ parts, part.InShape)
    (paired : pairUp? parts = some arms) :
    ∀ arm ∈ arms, arm.InShape ∧ ∃ antecedent consequent,
      arm = plain .pair [antecedent, consequent] := by
  -- The recursion takes two parts at a time.
  induction parts using pairUp?.induct generalizing arms with
  | case1 =>
    cases paired
    simp
  | case2 part => cases paired
  | case3 first second rest ih =>
    simp only [pairUp?, Option.map_eq_some_iff] at paired
    obtain ⟨others, paired, rfl⟩ := paired
    rw [List.forall_mem_cons, List.forall_mem_cons] at inShape
    obtain ⟨left, right, inShape⟩ := inShape
    rw [List.forall_mem_cons]
    exact ⟨⟨inShape_pair left right, first, second, rfl⟩, ih inShape paired⟩

/-- A selection is in shape if its parts are. -/
theorem inShape_select {parts : List Expr} {expr : Expr} (inShape : ∀ part ∈ parts, part.InShape)
    (built : select parts = .ok expr) : expr.InShape := by
  -- The parts pair up, or there is no selection.
  unfold select at built
  split at built
  case h_2 => cases built
  case h_1 arms paired =>
    have pairs := pairs_of_pairUp? inShape paired
    cases built
    refine inShape_node ?_ fun arm member => (pairs arm member).1
    exact {
      inner := nofun
      count := rfl
      target := nofun
      arms := fun _ arm member => by
        obtain ⟨-, antecedent, consequent, rfl⟩ := pairs arm member
        rfl
      parts := nofun
      callee := nofun
      body := nofun
      branches := fun _ arm member => (pairs arm member).2
      anonymous := nofun
      named := nofun }

/-- A call is in shape if its parts are. -/
theorem inShape_call {parts : List Expr} {expr : Expr} (inShape : ∀ part ∈ parts, part.InShape)
    (built : call parts = .ok expr) : expr.InShape := by
  -- It is the first part that makes the call one by name or without a name.
  unfold call at built
  split at built
  · cases built
  · -- A call by name has only the arguments for children.
    cases built
    refine inShape_node ?_ fun part member => inShape part (List.mem_cons_of_mem _ member)
    exact {
      inner := nofun
      count := rfl
      target := nofun
      arms := nofun
      parts := nofun
      callee := nofun
      body := nofun
      branches := nofun
      anonymous := nofun
      named := fun _ => .inr rfl }
  · -- A call without a name keeps the definition as its first child.
    cases built
    refine inShape_node ?_ inShape
    exact {
      inner := nofun
      count := rfl
      target := nofun
      arms := nofun
      parts := nofun
      callee := fun _ _ => ⟨_, _, rfl, rfl⟩
      body := nofun
      branches := nofun
      anonymous := fun _ _ => ⟨_, _, rfl⟩
      named := nofun }
  · cases built

/-- A node with any number of parts in shape is in shape. -/
theorem inShape_assembleAny {rule : Rule} {parts : List Expr} {expr : Expr}
    (inShape : ∀ part ∈ parts, part.InShape) (built : assembleAny rule parts = .ok expr) :
    expr.InShape := by
  -- The rules that collect their parts come in their order: sequence, list, definitions with and
  -- without a name, selection, call.
  unfold assembleAny at built
  split at built
  · cases built
    exact inShape_sequence inShape
  · cases built
    exact inShape_plain rfl nofun nofun nofun nofun nofun nofun inShape
  · exact inShape_defineNamed inShape built
  · exact inShape_define inShape built
  · exact inShape_select inShape built
  · exact inShape_call inShape built
  · cases built

/-- What a leaf of the tree means is a leaf. -/
theorem inShape_readLeaf {separator : Char} {rule : Rule} {children : List Tree} {expr : Expr}
    (read : readLeaf separator rule children = .ok expr) : expr.InShape := by
  obtain ⟨text, -, read⟩ := bind_eq_ok.mp read
  -- Every rule for leaves makes a constant or a name of the text, if it makes anything of it.
  unfold leaf at read
  split at read
  · -- An integer.
    unfold integerLeaf at read
    split at read <;> cases read
    trivial
  · -- A real number.
    unfold realLeaf at read
    split at read <;> cases read
    trivial
  · -- A truth value.
    delta booleanLeaf at read
    dsimp only at read
    split at read <;> cases read
    trivial
  · -- A text.
    cases read
    trivial
  · -- A symbol.
    simp only [symbolLeaf] at read
    split at read <;> cases read
    trivial
  · -- The name of a type.
    unfold typeLeaf at read
    split at read <;> cases read
    trivial
  · -- No other rule reads leaves.
    cases read

/-- A node put together from parts in shape is in shape. -/
theorem inShape_assemble {separator : Char} {rule : Rule} {children : List Tree}
    {parts : List Expr} {expr : Expr} (inShape : ∀ part ∈ parts, part.InShape)
    (built : assemble separator rule children parts = .ok expr) : expr.InShape := by
  -- Each group of rules puts its nodes together in its own way.
  unfold assemble at built
  split at built
  · -- Nodes that collect their parts.
    exact inShape_assembleAny inShape built
  split at built
  · -- Leaves.
    exact inShape_readLeaf built
  split at built
  · -- Chains.
    obtain ⟨⟨operands, operations⟩, accepted, built⟩ := bind_eq_ok.mp built
    exact inShape_joinChain (infix_of_chain accepted) inShape built
  · -- Nodes with a fixed number of parts.
    exact inShape_assembleFixed inShape built

mutual

/-- Whatever a tree means is in shape. -/
theorem inShape_ascend (separator : Char) (expr : Expr) : (tree : Tree) →
    ascend separator tree = .ok expr → expr.InShape
  | .terminal text, built => by cases built
  | .node rule children, built => by
    -- The parts are in shape before the node is put together from them.
    obtain ⟨parts, read, built⟩ := bind_eq_ok.mp built
    exact inShape_assemble (inShape_ascendAll separator parts children read) built

/-- Whatever trees in a row mean is in shape. -/
theorem inShape_ascendAll (separator : Char) (parts : List Expr) : (trees : List Tree) →
    ascendAll separator trees = .ok parts → ∀ part ∈ parts, part.InShape
  | [], read => by
    cases read
    simp
  | .terminal text :: rest, read => inShape_ascendAll separator parts rest read
  | .node rule children :: rest, read => by
    -- The first tree means a part, and so do the others.
    simp only [ascendAll, bind_eq_ok, pure_eq_ok, Except.ok.injEq] at read
    obtain ⟨first, here, others, there, rfl⟩ := read
    rw [List.forall_mem_cons]
    exact ⟨inShape_ascend separator first (.node rule children) here,
      inShape_ascendAll separator others rest there⟩

end

end Build

namespace Builder

/-- What either builder makes of a tree, an ascent makes of it. -/
theorem ascend_of_build {builder : Builder} {separator : Char} {tree : Tree} {expr : Expr}
    (built : builder.build separator tree = .ok expr) :
    Build.ascend separator tree = .ok expr := by
  -- A token is no script, and on nodes the two builders agree with the ascent.
  cases tree with
  | terminal text => cases built
  | node rule children =>
    cases builder with
    | listener => rwa [build, Build.stackUp_eq_ascend] at built
    | visitor => exact (Build.ascend_eq_ok_iff separator expr _).mpr built

/-- What an ascent makes of a tree, either builder makes of it. -/
theorem build_of_ascend {separator : Char} {tree : Tree} {expr : Expr}
    (read : Build.ascend separator tree = .ok expr) (builder : Builder) :
    builder.build separator tree = .ok expr := by
  cases tree with
  | terminal text => cases read
  | node rule children =>
    -- The stack does what an ascent does, and a descent succeeds with the same.
    cases builder with
    | listener => exact (Build.stackUp_eq_ascend separator rule children).trans read
    | visitor => exact (Build.ascend_eq_ok_iff separator expr _).mp read

/--
Whatever the tree, what a builder makes of it passes the check in front of evaluation.

Every node of it has the shape that its operation requires, also where evaluation never checks it.
-/
theorem inShape_of_build (builder : Builder) (separator : Char) (tree : Tree) (expr : Expr)
    (built : builder.build separator tree = .ok expr) :
    expr.validate = .ok () ∧ expr.AllNodes Expr.WellShaped := by
  -- An ascent through the tree comes to the same expression.
  have inShape := Build.inShape_ascend separator expr tree (ascend_of_build built)
  exact ⟨inShape.validate_eq_ok, inShape⟩

/-- A function without a name that is called where it is defined, as a tree. -/
def identityCallTree : Tree :=
  .node .call [
    .node .anonymousDefinition [
      .node .parameter [.node .symbol [.terminal "a"], .terminal ":",
        .node .type [.terminal "integer"]],
      .node .block [.node .symbol [.terminal "a"]]],
    .node .integer [.terminal "7"]]

/-- What the call of a function that yields its argument means. -/
def identityCall : Expr :=
  .plain .call [
    .plain .define [
      .plain .pair [.symbol ⟨"A"⟩, .symbol ⟨"INTEGER"⟩],
      .plain .sequence [.symbol ⟨"A"⟩]],
    .literal "7" (.integer 7)]

/-- The call is built with a definition, a parameter and a sequence that are all in shape. -/
theorem inShape_of_build_identityCall :
    listener.build '.' identityCallTree = .ok identityCall ∧
      identityCall.validate = .ok () ∧ identityCall.AllNodes Expr.WellShaped := by
  have built : listener.build '.' identityCallTree = .ok identityCall := by rfl
  exact ⟨built, inShape_of_build listener '.' identityCallTree identityCall built⟩

end Builder

end Scriptlet

import Scriptlet.Interpreter
import Scriptlet.Proofs.Build.Elision
import Scriptlet.Proofs.Build.Shape

/-!
Arithmetic on whole numbers, from the tree to the value.

Main statement: a tree of integers, signs, parentheses, sums and products runs to its exact value,
cut to 64 bits once; what overflows on the way does no harm.
-/

namespace Scriptlet

namespace Operation

/-- An operation on exact integers. -/
def onInts : Operation → Int → Int → Int
  | add, left, right => left + right
  | subtract, left, right => left - right
  | multiply, left, right => left * right
  | _, left, _ => left

end Operation

namespace Rule

/-- The operations that a rule allows and that have an exact value on any two integers. -/
def isExact : Rule → Operation → Bool
  | sum, .add | sum, .subtract | product, .multiply => true
  | _, _ => false

/-- There are three such operations. -/
theorem isExact_cases {rule : Rule} {operation : Operation} (exact : rule.isExact operation = true) :
    (rule = sum ∧ (operation = .add ∨ operation = .subtract)) ∨
      (rule = product ∧ operation = .multiply) := by
  -- A sum adds and subtracts, a product multiplies, and every other pair rounds or may fail.
  unfold isExact at exact
  split at exact
  · exact .inl ⟨rfl, .inl rfl⟩
  · exact .inl ⟨rfl, .inr rfl⟩
  · exact .inr ⟨rfl, rfl⟩
  · cases exact

end Rule

namespace Tree

/-- A further operand of a chain, behind its operator. -/
structure Link where
  /-- The operator. -/
  operation : Operation
  /-- The token of the operator. -/
  token : String
  /-- The operand. -/
  operand : Tree
  /-- The exact value of the operand. -/
  amount : Int

/-- The operator and the operand as they stand in a chain. -/
def Link.pair (link : Link) : String × Tree :=
  (link.token, link.operand)

/-- The exact value of a chain, from left to right. -/
def total (amount : Int) (links : List Link) : Int :=
  links.foldl (fun sum link => link.operation.onInts sum link.amount) amount

/-- The exact value of a tree that does arithmetic on integers. -/
inductive Amounts : Tree → Int → Prop where
  /-- Integers in range stand for themselves. -/
  | integer {text : String} {n : Int} (spells : Decimal.Spells (Text.trimChars text.toList) n)
      (range : Decimal.InRange n) : Amounts (.node .integer [.terminal text]) n
  /-- Parentheses and levels that add nothing make no difference. -/
  | level {tree : Tree} {n : Int} (around : Level) (inner : Amounts tree n) :
      Amounts (around.around tree) n
  /-- A minus sign gives the number of opposite sign. -/
  | negated {token : String} {tree : Tree} {n : Int} (spelled : Text.Spelled "-" token)
      (inner : Amounts tree n) : Amounts (.node .signed [.terminal token, tree]) (-n)
  /-- The operations of a sum or of a product are done from left to right. -/
  | chain {rule : Rule} {first : Tree} {n : Int} {links : List Link}
      (joined : rule = .sum ∨ rule = .product)
      (exact : ∀ link ∈ links, rule.isExact link.operation = true)
      (spelled : ∀ link ∈ links, Text.Spelled link.operation.spelling link.token)
      (head : Amounts first n) (others : ∀ link ∈ links, Amounts link.operand link.amount) :
      Amounts (.node rule (first :: Build.linked (links.map Link.pair))) (total n links)

/-- An operation on two operands is a chain. -/
theorem Amounts.join {rule : Rule} {left right : Tree} {m n : Int} (first : left.Amounts m)
    (joined : rule = .sum ∨ rule = .product) (operation : Operation) (token : String)
    (exact : rule.isExact operation = true) (spelled : Text.Spelled operation.spelling token)
    (second : right.Amounts n) :
    Amounts (.node rule [left, .terminal token, right]) (operation.onInts m n) := by
  -- The operator and its right operand are the one link of the chain.
  let links : List Link := [⟨operation, token, right, n⟩]
  have chained : Amounts (.node rule (left :: Build.linked (links.map Link.pair))) (total m links) :=
    .chain joined (by simpa [links]) (by simpa [links]) first (by simpa [links])
  exact chained

mutual

/-- The number of nodes and tokens of a tree. -/
def size : Tree → Nat
  | terminal _ => 1
  | node _ children => 1 + sizeAll children

/-- The number of nodes and tokens of some trees. -/
def sizeAll : List Tree → Nat
  | [] => 0
  | tree :: rest => tree.size + sizeAll rest

end

/-- The sizes of two rows of trees add up. -/
theorem sizeAll_append (left right : List Tree) :
    sizeAll (left ++ right) = sizeAll left + sizeAll right := by
  induction left with
  | nil => simp [sizeAll]
  | cons tree rest ih => simp [sizeAll, ih, Nat.add_assoc]

/-- A level is larger than what it is put around. -/
theorem size_lt_size_around (level : Level) (tree : Tree) : tree.size < (level.around tree).size := by
  -- Levels of either kind add one node at least.
  cases level with
  | loose rule passed before after =>
    simp only [Level.around, Level.content, size, sizeAll_append, sizeAll]
    omega
  | bare rule plain =>
    simp only [Level.around, Level.content, size, sizeAll]
    omega

end Tree

namespace Evaluation

/-- Whether an expression comes to an integer, wherever it is evaluated: given so many steps it
does, and with fewer of them it does or runs out of them. -/
def Computes (expr : Expr) (n : Int64) (depth : Nat) : Prop :=
  ∀ (context : Context) (steps frame : Nat) (world : World),
    eval context steps expr frame world = .ok (.integer n) world ∨
      steps < depth ∧ eval context steps expr frame world = .error .exhausted world

variable {operation : Operation} {left right : Expr}

/-- An expression that computes within some steps computes within more. -/
theorem Computes.mono {expr : Expr} {n : Int64} {depth more : Nat} (computes : Computes expr n depth)
    (le : depth ≤ more) : Computes expr n more := by
  -- What had too few of the fewer steps has too few of the more.
  intro context steps frame world
  rcases computes context steps frame world with value | ⟨few, stopped⟩
  · exact .inl value
  · exact .inr ⟨Nat.lt_of_lt_of_le few le, stopped⟩

/-- A constant computes itself in one step. -/
theorem computes_literal (token : String) (n : Int64) :
    Computes (.literal token (.integer n)) n 1 := by
  intro context steps frame world
  -- Without a step nothing is evaluated, and one is enough for a constant.
  cases steps with
  | zero => exact .inr ⟨Nat.one_pos, rfl⟩
  | succ steps => exact .inl rfl

/-- The number of opposite sign is computed from the number. -/
theorem Computes.negate {expr : Expr} {n : Int} {depth : Nat}
    (computes : Computes expr (.ofInt n) depth) :
    Computes (.plain .negate [expr]) (.ofInt (-n)) (depth + 1) := by
  intro context steps frame world
  -- The node itself costs a step.
  cases steps with
  | zero => exact .inr ⟨Nat.succ_pos depth, rfl⟩
  | succ steps =>
    have value : Operator.applyUnary .negate (.integer (.ofInt n)) =
        .ok (.integer (.ofInt (-n))) := by
      rw [Int64.ofInt_neg]
      rfl
    -- One step is spent on the node, and the others go to its operand.
    simp only [Expr.plain, eval, evalNode, evalUnary, Expr.single, ofShape, ofExcept, Bind.bind,
      EStateM.bind, Pure.pure, EStateM.pure]
    rcases computes context steps frame world with operand | ⟨few, stopped⟩
    · left
      simp only [operand, value]
      rfl
    · simp only [stopped, and_true, reduceCtorEq, false_or]
      omega

/-- An operation on cut operands has the exact value, cut in the same way. -/
theorem applyBinary_ofInt {rule : Rule} (exact : rule.isExact operation = true)
    (tolerance : Float) (m n : Int) :
    Operator.applyBinary tolerance operation (.integer (.ofInt m)) (.integer (.ofInt n)) =
      .ok (.integer (.ofInt (operation.onInts m n))) := by
  -- Cutting goes through each of the three operations.
  rcases Rule.isExact_cases exact with ⟨-, rfl | rfl⟩ | ⟨-, rfl⟩
  · rw [Operation.onInts, Int64.ofInt_add]
    rfl
  · rw [Operation.onInts, Int64.ofInt_sub]
    rfl
  · rw [Operation.onInts, Int64.ofInt_mul]
    rfl

/-- An operation on two operands that compute something computes what it makes of them. -/
theorem Computes.operate {rule : Rule} (exact : rule.isExact operation = true) {m n : Int}
    {depth further : Nat} (first : Computes left (.ofInt m) depth)
    (second : Computes right (.ofInt n) further) :
    Computes (.plain operation [left, right]) (.ofInt (operation.onInts m n))
      (depth + further + 1) := by
  intro context steps frame world
  -- The operation costs a step of its own.
  cases steps with
  | zero => exact .inr ⟨Nat.succ_pos _, rfl⟩
  | succ steps =>
    have value := applyBinary_ofInt exact context.settings.tolerance m n
    have binary : eval context (steps + 1) (.plain operation [left, right]) frame =
        evalBinary context (eval context steps) frame operation [left, right] := by
      rcases Rule.isExact_cases exact with ⟨-, rfl | rfl⟩ | ⟨-, rfl⟩ <;> rfl
    simp only [binary, evalBinary, Expr.pair, ofShape, ofExcept, Bind.bind, EStateM.bind, Pure.pure,
      EStateM.pure]
    -- The operands are evaluated one after the other, and either may run out of steps.
    rcases first context steps frame world with x | ⟨few, stopped⟩
    · rcases second context steps frame world with y | ⟨few, stopped⟩
      · -- With the values of both operands at hand, the operation cannot fail.
        left
        simp only [x, y, value]
        rfl
      · -- The second operand ran out of steps.
        simp only [x, stopped, and_true, reduceCtorEq, false_or]
        omega
    · -- The first operand ran out of steps.
      simp only [stopped, and_true, reduceCtorEq, false_or]
      omega

/-- Operations nested to the left compute the exact value of the chain. -/
theorem Computes.nestLeft {rule : Rule} {links : List Tree.Link} {exprs : List Expr} {n : Int}
    {depth : Nat} (exact : ∀ link ∈ links, rule.isExact link.operation = true)
    (first : Computes left (.ofInt n) depth)
    (others : List.Forall₂
      (fun link expr => Computes expr (.ofInt link.amount) link.operand.size) links exprs) :
    Computes (Build.nestLeft left (links.map Tree.Link.operation) exprs)
      (.ofInt (Tree.total n links))
      (depth + Tree.sizeAll (Build.linked (links.map Tree.Link.pair))) := by
  -- What has been computed so far is the left operand of the next operation.
  induction others generalizing left n depth with
  | nil => simpa [Build.nestLeft, Tree.total, Tree.sizeAll, Build.linked] using first
  | @cons link expr links exprs second others ih =>
    rw [List.forall_mem_cons] at exact
    have joined := ih exact.2 (first.operate exact.1 second)
    refine Computes.mono joined ?_
    simp only [Build.linked, List.map_cons, List.flatMap_cons, Tree.Link.pair, Tree.sizeAll,
      Tree.size, List.cons_append, List.nil_append]
    omega

end Evaluation

namespace Tree

open Build Evaluation

/-- Where each item is related to something, a row of items is related to a row of such things. -/
theorem exists_forall₂ {α β : Type} {related : α → β → Prop} {items : List α}
    (each : ∀ item ∈ items, ∃ other, related item other) :
    ∃ others, List.Forall₂ related items others := by
  induction items with
  | nil => exact ⟨[], .nil⟩
  | cons item items ih =>
    rw [List.forall_mem_cons] at each
    obtain ⟨other, first⟩ := each.1
    obtain ⟨others, rest⟩ := ih each.2
    exact ⟨other :: others, .cons first rest⟩

/-- The operators of an exact chain are read as the operations that they spell. -/
theorem forall₂_chainOperation {rule : Rule} {links : List Link}
    (exact : ∀ link ∈ links, rule.isExact link.operation = true)
    (spelled : ∀ link ∈ links, Text.Spelled link.operation.spelling link.token) :
    List.Forall₂ (fun pair operation => chainOperation rule pair.1 = .ok operation)
      (links.map Link.pair) (links.map Link.operation) := by
  -- Operators are read one by one, so that each link can be looked at alone.
  rw [List.forall₂_map_left_iff, List.forall₂_map_right_iff, List.forall₂_same]
  -- There are three operators to look up, and the rule of each allows it.
  intro link member
  have known : Operation.ofOperator? link.operation.spelling = some link.operation ∧
      allows rule link.operation = true := by
    rcases Rule.isExact_cases (exact link member) with ⟨rfl, same | same⟩ | ⟨rfl, same⟩ <;>
      rw [same] <;> decide
  exact chainOperation_of_spelled (spelled link member) known.1 known.2

/-- A tree that does arithmetic is built to an expression that computes its exact value. -/
theorem Amounts.computes (separator : Char) {tree : Tree} {n : Int} (amounts : tree.Amounts n) :
    tree.isNode = true ∧
      ∃ expr, ascend separator tree = .ok expr ∧ Computes expr (.ofInt n) tree.size := by
  induction amounts with
  | @integer text n spells range =>
    -- The text is read as the number that it spells.
    have read := Decimal.readInt64_of_spells spells range
    refine ⟨rfl, .literal text (.integer (.ofInt n)), ?_, (computes_literal _ _).mono ?_⟩
    · simp [ascend, ascendAll, assemble, Rule.collects, Rule.isLexical, readLeaf, onlyToken, leaf,
        integerLeaf, readInteger, read]
    · simp [size, sizeAll]
  | @level tree n around inner ih =>
    -- A level is built to what is built inside, and makes the tree no smaller.
    obtain ⟨node, expr, built, computes⟩ := ih
    cases tree with
    | terminal text => cases node
    | node rule children =>
      refine ⟨rfl, expr, ?_, computes.mono (Nat.le_of_lt (size_lt_size_around around _))⟩
      rw [(interchangeable_level around rule children).ascend_eq, built]
  | @negated token tree n spelled inner ih =>
    -- The operand is built first, and the sign is put in front of what it is built to.
    obtain ⟨node, expr, built, computes⟩ := ih
    cases tree with
    | terminal text => cases node
    | node rule children =>
      have same : Text.sameWord (Text.trim token) "-" = true := spelled
      have read : sign .signed [.terminal token, .node rule children] = .ok (some .negate) := by
        simp [sign, signOf?, tokens, List.filterMap_cons, text?, same]
      refine ⟨rfl, .plain .negate [expr], ?_, computes.negate.mono ?_⟩
      · rw [ascend, ascendAll, ascendAll, built]
        simp [ascendAll, assemble, Rule.collects, Rule.isLexical, Rule.isChain, assembleFixed, read,
          one, applySign]
      · simp only [size, sizeAll]
        omega
  | @chain rule first n links joined exact spelled head others ih ih' =>
    obtain ⟨-, left, built, computes⟩ := ih
    -- Each operand is built on its own, and then all are joined from the left.
    obtain ⟨exprs, each⟩ := exists_forall₂ fun link member => (ih' link member).2
    have isChain : rule.isChain = true := by rcases joined with rfl | rfl <;> rfl
    have read := ascend_chain isChain (forall₂_chainOperation exact spelled) built
      (List.forall₂_map_left_iff.mpr (each.imp fun _ _ both => both.1))
    have joins : joinChain rule (left :: exprs) (links.map Link.operation) =
        .ok (nestLeft left (links.map Link.operation) exprs) := by
      have lengths := each.length_eq
      rcases joined with rfl | rfl <;> simp [joinChain, lengths]
    have others := computes.nestLeft exact (each.imp fun _ _ both => both.2)
    refine ⟨rfl, nestLeft left (links.map Link.operation) exprs, ?_, others.mono ?_⟩
    · rw [read, joins]
    · simp only [size, sizeAll]
      omega

end Tree

namespace Interpreter

open Tree Build Evaluation

/-- Build the expression that a tree means, and evaluate it within a number of steps. -/
def runWithin (steps : Nat) (interpreter : Interpreter) (host : Host) (tree : Tree)
    (builder : Builder) : Except RunError Value × Interpreter :=
  match builder.build interpreter.separator tree with
  | .error error => (.error (.build error), interpreter)
  | .ok expr =>
    let (outcome, after) := interpreter.perform do
      ofShape expr.validate
      eval (interpreter.context host) steps expr root
    (outcome.mapError .stop, after)

/-- A run is one within the number of steps that no machine has room for. -/
theorem run_eq_runWithin : run = runWithin steps :=
  rfl

/--
A tree that does arithmetic on integers runs to its exact value modulo `2 ^ 64`.

Whichever builder is at work, the value is the one of 64 bits that differs from the exact one by a
multiple of `2 ^ 64`, and nothing else changes. A run may run out of steps only where there are
fewer of them than nodes and tokens in the tree.
-/
theorem run_amounts (interpreter : Interpreter) (host : Host) {tree : Tree} {n : Int}
    (amounts : tree.Amounts n) :
    ∃ v : Int64, v.toInt = n.bmod Int64.size ∧ ∀ builder : Builder,
      (tree.size ≤ steps → interpreter.run host tree builder = (.ok (.integer v), interpreter)) ∧
      (∀ steps, interpreter.runWithin steps host tree builder = (.ok (.integer v), interpreter) ∨
        steps < tree.size ∧
          interpreter.runWithin steps host tree builder =
            (.error (.stop .exhausted), interpreter)) := by
  -- What the tree is built to computes the exact value, and it is in shape.
  obtain ⟨-, expr, read, computes⟩ := amounts.computes interpreter.separator
  have valid : expr.validate = .ok () := (inShape_ascend _ _ tree read).validate_eq_ok
  refine ⟨.ofInt n, Int64.toInt_ofInt, fun builder => ?_⟩
  have built := Builder.build_of_ascend read builder
  have within (steps : Nat) :
      interpreter.runWithin steps host tree builder =
          (.ok (.integer (.ofInt n)), interpreter) ∨
        steps < tree.size ∧
          interpreter.runWithin steps host tree builder =
            (.error (.stop .exhausted), interpreter) := by
    have checked : ofShape (.ok ()) interpreter.world = .ok () interpreter.world := rfl
    simp only [runWithin, built, perform, valid, Bind.bind, EStateM.bind, checked]
    -- The check of the shape passes, so that all hangs on the steps.
    rcases computes (interpreter.context host) steps root interpreter.world with
      value | ⟨few, stopped⟩
    · left
      simp only [value]
      rfl
    · right
      simp only [stopped]
      exact ⟨few, rfl⟩
  refine ⟨fun enough => ?_, within⟩
  rw [run_eq_runWithin]
  rcases within steps with value | ⟨few, -⟩
  · exact value
  · exact absurd enough (Nat.not_le_of_lt few)

/-- The largest integer and one more, of opposite sign, less two times three. -/
def overflowTree : Tree :=
  .node .sum [
    .node .signed [.terminal "-", .node .factor [.terminal "(",
      .node .sum [.node .integer [.terminal "9223372036854775807"], .terminal "+",
        .node .integer [.terminal "1"]], .terminal ")"]],
    .terminal "-",
    .node .product [.node .integer [.terminal "2"], .terminal "*",
      .node .integer [.terminal "3"]]]

/-- Two operations overflow, and the value is the exact one and `2 ^ 64` more. -/
theorem run_amounts_overflowTree :
    let interpreter := start {} '.' []
    let host : Host := fun _ _ => ⟨.ok .emptyList, false⟩
    overflowTree.Amounts (-9223372036854775814) ∧ overflowTree.size ≤ steps ∧
      ∀ builder, interpreter.run host overflowTree builder =
        (.ok (.integer 9223372036854775802), interpreter) := by
  -- The tree is put together from its parts, and its exact value with it.
  intro interpreter host
  have one : Amounts (.node .integer [.terminal "1"]) 1 :=
    .integer (.plain (by decide)) ⟨by decide, by decide⟩
  have two : Amounts (.node .integer [.terminal "2"]) 2 :=
    .integer (.plain (by decide)) ⟨by decide, by decide⟩
  have three : Amounts (.node .integer [.terminal "3"]) 3 :=
    .integer (.plain (by decide)) ⟨by decide, by decide⟩
  have largest : Amounts (.node .integer [.terminal "9223372036854775807"]) 9223372036854775807 :=
    .integer (.plain (by decide)) ⟨by decide, by decide⟩
  have sum := largest.join (.inl rfl) .add "+" rfl (by decide) one
  have product := two.join (.inr rfl) .multiply "*" rfl (by decide) three
  have negated : Amounts (.node .signed [.terminal "-", _]) _ :=
    .negated (by decide) (sum.level (.loose .factor rfl ["("] [")"]))
  have amounts : overflowTree.Amounts (-9223372036854775814) :=
    negated.join (.inl rfl) .subtract "-" rfl (by decide) product
  have small : overflowTree.size ≤ steps := by decide
  obtain ⟨v, value, runs⟩ := run_amounts interpreter host amounts
  -- The number of 64 bits is known from the exact value alone.
  have same : v = 9223372036854775802 := Int64.toInt_inj.mp value
  refine ⟨amounts, small, fun builder => ?_⟩
  rw [← same]
  exact (runs builder).1 small

end Interpreter

end Scriptlet

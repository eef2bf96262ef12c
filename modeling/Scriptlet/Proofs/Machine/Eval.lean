import Scriptlet.Proofs.Machine.Call
import Scriptlet.Proofs.Operator.Apply

/-!
Evaluation is in step.

Main statement: relations that are kept by every single thing that evaluation does are kept by
whole evaluations, through all nodes, calls and loops.
-/

namespace Scriptlet

open Evaluation Value

namespace Expr

/-- The children of a node that must have two are parts of it. -/
theorem children_of_pair {operation : Operation} {children : List Expr} {first second : Expr}
    (shaped : pair operation children = .ok (first, second)) :
    children = [first, second] := by
  -- Of the cases of the definition, the one for two children is left.
  unfold pair at shaped
  split at shaped <;> simp_all

/-- The child of a node that must have one is a part of it. -/
theorem children_of_single {operation : Operation} {children : List Expr} {child : Expr}
    (shaped : single operation children = .ok child) : children = [child] := by
  -- Of the cases of the definition, the one for one child is left.
  unfold single at shaped
  split at shaped <;> simp_all

end Expr

/-- What a round of a loop evaluates is the body, or an item of the sequence that the body is. -/
theorem Evaluation.mem_loopItems {body item : Expr} (member : item ∈ loopItems body) :
    -- The body is taken apart only if it is a sequence.
    item = body ∨ ∃ name items, body = .node .sequence name items ∧ item ∈ items := by
  unfold loopItems at member
  split at member
  case isFalse => exact .inl (List.mem_singleton.mp member)
  case isTrue sequence =>
    cases body with
    | literal | symbol => simp [Expr.children] at member
    | node operation name children =>
      have same : operation = .sequence := by simpa [Expr.operation?] using sequence
      subst same
      exact .inr ⟨name, children, rfl, member⟩

/-- A round of a loop: whether the condition holds, and if it does, the body once. -/
def Evaluation.evalRound (self : Evaluator) (frame : Nat) (condition body : Expr) :
    Evaluation Bool := do
  poll
  note .tested
  if ← evalCondition self frame .loopCondition condition then
    evalBody self frame (loopItems body)
    return true
  else return false

/-- Rounds of a loop are a round and, if its condition holds, those behind it. -/
theorem Evaluation.evalRounds_succ (self : Evaluator) (frame : Nat) (condition body : Expr)
    (rounds : Nat) :
    evalRounds self frame condition body (rounds + 1) = (do
      if ← evalRound self frame condition body then evalRounds self frame condition body rounds
      else return .emptyList) := by
  -- The two sides differ only in how the parts of the round are put in brackets.
  rw [evalRounds, evalRound]
  simp only [bind_assoc]
  refine bind_congr fun _ => bind_congr fun _ => bind_congr fun truth => ?_
  cases truth <;> simp

namespace Relations

variable {relations : Relations} {level frame frame' : Nat} {self self' : Evaluator}

/-- Evaluating expressions from left to right is in step. -/
theorem KeepsAll.evalAll (kept : relations.KeepsAll self self') {exprs : List Expr}
    (admitted : ∀ expr ∈ exprs, relations.admits expr frame frame') :
    relations.Keeps level (MatchAll relations.functions) (Evaluation.evalAll self frame exprs)
      (Evaluation.evalAll self' frame' exprs) := by
  -- By induction on the expressions, each evaluated where the ones before it have led.
  induction exprs with
  | nil => exact .pure trivial
  | cons expr rest ih =>
    refine InStep.bind (kept level expr frame frame' (admitted expr (by simp)))
      fun value value' same => ?_
    refine InStep.bind (ih fun other member => admitted other (by simp [member]))
      fun values values' sames => ?_
    exact .pure ⟨same, sames⟩

/-- The bodies of loops are in step. -/
theorem KeepsAll.evalBody (kept : relations.KeepsAll self self') {items : List Expr}
    (admitted : ∀ item ∈ items, relations.admits item frame frame') :
    relations.Keeps level (fun _ _ => True) (Evaluation.evalBody self frame items)
      (Evaluation.evalBody self' frame' items) := by
  -- By induction on the items, each evaluated where the ones before it have led.
  induction items with
  | nil => exact .pure trivial
  | cons item rest ih =>
    -- What an item yields is of no interest; that the worlds stay related is.
    refine InStep.bind (kept level item frame frame' (admitted item (by simp))).discard
      fun _ _ _ => ?_
    exact ih fun other member => admitted other (by simp [member])

end Relations

namespace Simulation

variable {relations : Relations} {left right : Context}
  (simulation : Simulation relations left right) {level frame frame' : Nat} {self self' : Evaluator}

include simulation

/-- What is done in step with the two children of a node is in step if the node has two. -/
theorem pair_bind {α : Type} {related : α → α → Prop} {operation : Operation}
    {children : List Expr} {next next' : Expr × Expr → Evaluation α}
    (rest : ∀ first second, children = [first, second] →
      relations.Keeps level related (next (first, second)) (next' (first, second))) :
    relations.Keeps level related (Evaluation.ofShape (Expr.pair operation children) >>= next)
      (Evaluation.ofShape (Expr.pair operation children) >>= next') :=
  -- The node is the same on both sides, and so is whether it has two children.
  InStep.bind_known (simulation.ofShape _) fun parts shaped =>
    rest parts.1 parts.2 (Expr.children_of_pair shaped)

/-- Operators between two operands are in step. -/
theorem evalBinary_keeps (kept : relations.KeepsAll self self') {operation : Operation}
    {children : List Expr}
    (admitted : ∀ child ∈ children, relations.admits child frame frame') :
    relations.Keeps level (Match relations.functions)
      (evalBinary left self frame operation children)
      (evalBinary right self' frame' operation children) := by
  -- The first operand comes first, and the second is evaluated where it has led.
  refine simulation.pair_bind fun first second parts => ?_
  subst parts
  refine InStep.bind (kept level first frame frame' (admitted first (by simp)))
    fun x x' same => ?_
  refine InStep.bind (kept level second frame frame' (admitted second (by simp)))
    fun y y' same' => ?_
  -- Both sides compare with the same tolerance.
  rw [simulation.tolerance_eq]
  exact simulation.ofExcept (Operator.applyBinary_alike simulation.faithful _ operation same same')

/-- Operators in front of an operand are in step. -/
theorem evalUnary_keeps (kept : relations.KeepsAll self self') {operation : Operation}
    {children : List Expr}
    (admitted : ∀ child ∈ children, relations.admits child frame frame') :
    relations.Keeps level (Match relations.functions) (evalUnary self frame operation children)
      (evalUnary self' frame' operation children) := by
  -- There is one operand, on which the operator works alike.
  refine InStep.bind_known (simulation.ofShape _) fun operand shaped => ?_
  have parts := Expr.children_of_single shaped
  subst parts
  refine InStep.bind (kept level operand frame frame' (admitted operand (by simp)))
    fun x x' same => ?_
  exact simulation.ofExcept (Operator.applyUnary_alike operation same)

/-- Operands that have to be truth values are in step. -/
theorem evalTruth_keeps (kept : relations.KeepsAll self self') (operation : Operation)
    {operand : Expr} (admitted : relations.admits operand frame frame') :
    relations.Keeps level Eq (evalTruth self frame operation operand)
      (evalTruth self' frame' operation operand) := by
  -- The operand is evaluated in step first.
  refine InStep.bind (kept level operand frame frame' admitted) fun value value' same => ?_
  -- Functions are no truth values, so both operands are the same one or are refused alike.
  rw [same.boolean?_eq, same.type_eq]
  cases value'.boolean? with
  | some truth => exact .pure rfl
  | none => exact simulation.raise _

/-- Conditions are in step. -/
theorem evalCondition_keeps (kept : relations.KeepsAll self self') (place : Place)
    {condition : Expr} (admitted : relations.admits condition frame frame') :
    relations.Keeps level Eq (evalCondition self frame place condition)
      (evalCondition self' frame' place condition) := by
  -- The condition is evaluated in step first.
  refine InStep.bind (kept level condition frame frame' admitted) fun value value' same => ?_
  -- As with operands, both conditions are the same truth value or are refused alike.
  rw [same.boolean?_eq, same.type_eq]
  cases value'.boolean? with
  | some truth => exact .pure rfl
  | none => exact simulation.raise _

/-- Operators that may stop at their first operand are in step. -/
theorem evalShortCircuit_keeps (kept : relations.KeepsAll self self') {operation : Operation}
    {children : List Expr}
    (admitted : ∀ child ∈ children, relations.admits child frame frame') :
    relations.Keeps level (Match relations.functions)
      (evalShortCircuit self frame operation children)
      (evalShortCircuit self' frame' operation children) := by
  -- Both sides have two operands, of which the first is evaluated in any case.
  refine simulation.pair_bind fun first second parts => ?_
  subst parts
  refine InStep.bind_eq (simulation.evalTruth_keeps kept operation (admitted first (by simp)))
    fun truth => ?_
  -- Where the second operand matters, its truth is the result on both sides.
  have other : relations.Keeps level (Match relations.functions)
      (do return .boolean (← evalTruth self frame operation second))
      (do return .boolean (← evalTruth self' frame' operation second)) := by
    refine InStep.bind_eq (simulation.evalTruth_keeps kept operation (admitted second (by simp)))
      fun truth => ?_
    exact .pure rfl
  split
  · cases truth with
    | true => exact other
    | false => exact .pure rfl
  · cases truth with
    | true => exact .pure rfl
    | false => exact other
  · exact simulation.raise _

/-- Sequences are in step. -/
theorem evalSequence_keeps (kept : relations.KeepsAll self self') {items : List Expr}
    (admitted : ∀ item ∈ items, relations.admits item frame frame') :
    relations.Keeps level (Match relations.functions) (evalSequence self frame items)
      (evalSequence self' frame' items) := by
  -- The cases are those of the sequence: no item, the last one, one with others behind it.
  induction items using evalSequence.induct with
  | case1 => exact simulation.raise _
  | case2 last => exact kept level last frame frame' (admitted last (by simp))
  | case3 item rest more ih =>
    rw [evalSequence.eq_3 self frame item rest more, evalSequence.eq_3 self' frame' item rest more]
    refine InStep.bind (kept level item frame frame' (admitted item (by simp))).discard
      fun _ _ _ => ?_
    exact ih fun other member => admitted other (by simp [member])

/-- Bindings are in step. -/
theorem evalBind_keeps (kept : relations.KeepsAll self self') {token : Option Name}
    {children : List Expr} (whole : relations.admits (.node .bind token children) frame frame') :
    relations.Keeps level (Match relations.functions) (evalBind self frame children)
      (evalBind self' frame' children) := by
  -- What a binding is made of is the name that it binds and the expression for its value.
  refine simulation.pair_bind fun aim expr parts => ?_
  subst parts
  cases aim with
  | literal | node =>
    -- The shape is refused before anything is evaluated.
    exact simulation.raise _
  | symbol name =>
    have writes := simulation.target whole
    refine InStep.bind (kept level expr frame frame' (simulation.part whole (by simp) (by simp)))
      fun value value' same => ?_
    refine InStep.get_bind fun world world' related => ?_
    -- Either both frames bind the name already, or neither does.
    rw [simulation.binds_eq writes related]
    split
    · exact simulation.lookup_keeps (simulation.part whole (by simp) (by simp))
    · refine InStep.bind (InStep.modify fun _ _ => simulation.bind writes same) fun _ _ _ => ?_
      exact .pure same

/-- Selections are in step. -/
theorem evalSelect_keeps (kept : relations.KeepsAll self self') {arms : List Expr}
    (admitted : ∀ arm ∈ arms, relations.admits arm frame frame') :
    relations.Keeps level (Match relations.functions) (evalSelect self frame arms)
      (evalSelect self' frame' arms) := by
  -- By induction on the arms that are still to be tried.
  induction arms with
  | nil => exact simulation.raise _
  | cons arm rest ih =>
    unfold evalSelect
    split
    case h_1 => contradiction
    case h_2 token children rest' same =>
      obtain ⟨rfl, rfl⟩ := List.cons.inj same
      refine simulation.pair_bind fun antecedent consequent parts => ?_
      subst parts
      -- The arm is a part of the selection, and its two children are parts of the arm.
      have whole := admitted _ List.mem_cons_self
      refine InStep.bind_eq (simulation.evalCondition_keeps kept .antecedent
        (simulation.part whole (by simp) (by simp))) fun truth => ?_
      cases truth with
      | true => exact kept level consequent frame frame' (simulation.part whole (by simp) (by simp))
      | false => exact ih fun other member => admitted other (by simp [member])
    case h_3 => exact simulation.raise _

/-- With the body of a loop, what each round evaluates may be evaluated. -/
theorem admits_of_mem_loopItems {body item : Expr} (admitted : relations.admits body frame frame')
    (member : item ∈ loopItems body) : relations.admits item frame frame' := by
  -- A sequence is taken apart into its items, and anything else is an item by itself.
  rcases mem_loopItems member with rfl | ⟨name, items, rfl, member⟩
  · exact admitted
  · exact simulation.part admitted (by simp) member

/-- A round of a loop is in step. -/
theorem evalRound_keeps (kept : relations.KeepsAll self self') {condition body : Expr}
    (admitted : relations.admits condition frame frame')
    (admitted' : relations.admits body frame frame') :
    relations.Keeps level Eq (evalRound self frame condition body)
      (evalRound self' frame' condition body) := by
  -- Asking, testing and the condition come first, and the body only if it holds.
  refine InStep.bind simulation.poll_keeps fun _ _ _ => ?_
  refine InStep.bind (InStep.modify fun _ _ => simulation.noted .tested (by simp)) fun _ _ _ => ?_
  refine InStep.bind_eq (simulation.evalCondition_keeps kept .loopCondition admitted)
    fun truth => ?_
  cases truth with
  | true =>
    refine InStep.bind (kept.evalBody fun item member =>
      simulation.admits_of_mem_loopItems admitted' member) fun _ _ _ => ?_
    exact .pure rfl
  | false => exact .pure rfl

/-- Rounds of a loop are in step. -/
theorem evalRounds_keeps (kept : relations.KeepsAll self self') {condition body : Expr}
    (admitted : relations.admits condition frame frame')
    (admitted' : relations.admits body frame frame') (rounds : Nat) :
    relations.Keeps level (Match relations.functions)
      (evalRounds self frame condition body rounds)
      (evalRounds self' frame' condition body rounds) := by
  -- By induction on the rounds that are left.
  induction rounds with
  -- Without rounds left, neither side so much as asks whether to stop.
  | zero => exact .throw _
  | succ rounds ih =>
    rw [evalRounds_succ, evalRounds_succ]
    refine InStep.bind_eq (simulation.evalRound_keeps kept admitted admitted') fun again => ?_
    cases again with
    | true => exact ih
    | false => exact .pure trivial

/-- Loops are in step. -/
theorem evalLoop_keeps (kept : relations.KeepsAll self self') {children : List Expr}
    (admitted : ∀ child ∈ children, relations.admits child frame frame') (rounds : Nat) :
    relations.Keeps level (Match relations.functions) (evalLoop self rounds frame children)
      (evalLoop self' rounds frame' children) := by
  -- A loop has a condition and a body, and any number of rounds.
  refine simulation.pair_bind fun condition body parts => ?_
  subst parts
  exact simulation.evalRounds_keeps kept (admitted condition (by simp)) (admitted body (by simp))
    rounds

/-- Definitions are in step. -/
theorem evalDefine_keeps {name : Option Name} {children : List Expr}
    (whole : relations.admits (.node .define name children) frame frame') :
    relations.Keeps level (Match relations.functions) (evalDefine frame name children)
      (evalDefine frame' name children) := by
  -- The types are resolved in the same way on both sides, since both have the same node.
  refine InStep.bind_known (simulation.ofShape _) fun parts shaped => ?_
  refine InStep.bind_known (simulation.ofExcept (.known (resolveParams parts.params)))
    fun params resolved => ?_
  refine InStep.bind_known (simulation.ofExcept (.known (resolveReturn parts.returnType)))
    fun returnType resolved' => ?_
  -- The numbers may differ; the functions that are made with them correspond.
  have numbered : relations.Keeps level (fun id id' =>
      relations.closures ⟨id, name, params, returnType, parts.body, frame⟩
        ⟨id', name, params, returnType, parts.body, frame'⟩) nextDefinition nextDefinition :=
    InStep.modifyGet fun world world' related =>
      ⟨simulation.define whole shaped resolved resolved' related, simulation.counted related⟩
  refine InStep.bind numbered fun id id' made => ?_
  cases name with
  | none => exact .pure made
  | some name =>
    refine InStep.bind (InStep.modify fun _ _ => simulation.bind (simulation.named whole) made)
      fun _ _ _ => ?_
    exact .pure made

/-- The function of a call and the expressions for its arguments are found in step. -/
theorem evalCallee_keeps (kept : relations.KeepsAll self self') {name : Option Name}
    {children : List Expr} (whole : relations.admits (.node .call name children) frame frame') :
    relations.Keeps level
      (fun found found' => Match relations.functions found.1 found'.1 ∧ found.2 = found'.2 ∧
        ∀ argument ∈ found.2, relations.admits argument frame frame')
      (evalCallee self frame name children) (evalCallee self' frame' name children) := by
  -- The children of a call may be evaluated, whether they are its function or its arguments.
  have parts : ∀ child ∈ children, relations.admits child frame frame' :=
    fun child member => simulation.part whole (by simp) member
  cases name with
  | some name =>
    -- Called by its name, the function is looked up, and all children are arguments.
    refine InStep.bind (simulation.lookup_keeps (simulation.callee whole)) fun _ _ same => ?_
    exact .pure ⟨same, rfl, parts⟩
  | none =>
    -- Otherwise the first child is evaluated to it.
    cases children with
    | nil => exact simulation.raise _
    | cons definition arguments =>
      refine InStep.bind (kept level definition frame frame' (parts definition (by simp)))
        fun _ _ same => ?_
      exact .pure ⟨same, rfl, fun argument member => parts argument (by simp [member])⟩

/-- Calls in expressions are in step. -/
theorem evalCall_keeps (kept : relations.KeepsAll self self') {name : Option Name}
    {children : List Expr} (whole : relations.admits (.node .call name children) frame frame') :
    relations.Keeps level (Match relations.functions) (evalCall left self frame name children)
      (evalCall right self' frame' name children) := by
  -- Either side finds its function first.
  refine InStep.bind (simulation.evalCallee_keeps kept whole) fun callee callee' both => ?_
  obtain ⟨found, arguments⟩ := callee
  obtain ⟨found', arguments'⟩ := callee'
  obtain ⟨same, rfl, parts⟩ := both
  -- What is called is a function on both sides, or something of the same type on both.
  have type := same.type_eq
  cases found <;> cases found' <;> simp only [Match] at same
  case function.function function function' =>
    refine InStep.bind (kept.evalAll parts) fun values values' sames => ?_
    exact simulation.call_keeps kept same sames
  all_goals exact simulation.raise _

/-- Nodes are in step if what lies below them is. -/
theorem evalNode_keeps (kept : relations.KeepsAll self self') (rounds : Nat)
    {operation : Operation} {name : Option Name} {children : List Expr}
    (whole : relations.admits (.node operation name children) frame frame') :
    relations.Keeps level (Match relations.functions)
      (evalNode left self rounds frame operation name children)
      (evalNode right self' rounds frame' operation name children) := by
  -- All nodes but definitions have their children evaluated.
  have parts (inner : operation ≠ .define) :
      ∀ child ∈ children, relations.admits child frame frame' :=
    fun child member => simulation.part whole inner member
  -- The cases are those of evaluation; what is left at the end are operators between two operands.
  cases operation
  case negate | negation => exact simulation.evalUnary_keeps kept (parts (by simp))
  case both | either => exact simulation.evalShortCircuit_keeps kept (parts (by simp))
  case list =>
    refine InStep.bind (kept.evalAll (parts (by simp))) fun _ _ sames => ?_
    exact .pure sames
  case sequence => exact simulation.evalSequence_keeps kept (parts (by simp))
  case bind => exact simulation.evalBind_keeps kept whole
  case select => exact simulation.evalSelect_keeps kept (parts (by simp))
  case loop => exact simulation.evalLoop_keeps kept (parts (by simp)) rounds
  case define => exact simulation.evalDefine_keeps whole
  case call => exact simulation.evalCall_keeps kept whole
  case pair | symbol => exact simulation.raise _
  all_goals exact simulation.evalBinary_keeps kept (parts (by simp))

/-- Evaluation is in step, however many steps it is given. -/
theorem eval_keeps (steps : Nat) : relations.KeepsAll (eval left steps) (eval right steps) := by
  -- The steps bound all recursion, through nodes and through the bodies of called functions.
  induction steps with
  | zero => exact fun level expr frame frame' admitted => .throw _
  | succ steps ih =>
    intro level expr frame frame' admitted
    cases expr with
    | literal token value =>
      exact .pure (.refl_of_not_isComposite (by cases value <;> rfl))
    | symbol name => exact simulation.lookup_keeps admitted
    | node operation name children => exact simulation.evalNode_keeps ih steps admitted

end Simulation

end Scriptlet

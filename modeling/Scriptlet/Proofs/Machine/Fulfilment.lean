import Scriptlet.Proofs.Machine.Contract
import Scriptlet.Proofs.Machine.Eval

/-!
Evaluation fulfils contracts.

Main statement: conditions that every single thing that evaluation does leaves as they are to be
are met by whole evaluations, through all nodes, calls and loops, however they end.
-/

namespace Scriptlet

open Evaluation Value

namespace Expr

variable {operation : Operation} {name : Option Name} {children : List Expr}

/-- Of a checked node that takes two children, both can be read off. -/
theorem pair_of_validate (two : operation.arity = .fixed 2)
    (valid : (node operation name children).validate = .ok ()) :
    ∃ parts, pair operation children = .ok parts := by
  -- The check has counted the children.
  obtain ⟨first, second, rfl⟩ :=
    children_of_accepts_two two (validate_node_iff.mp valid).1.count
  exact ⟨(first, second), rfl⟩

/-- Of a checked node that takes one child, it can be read off. -/
theorem single_of_validate (one : operation.arity = .fixed 1)
    (valid : (node operation name children).validate = .ok ()) :
    ∃ child, single operation children = .ok child := by
  -- The check has counted the child.
  obtain ⟨child, rfl⟩ := child_of_accepts_one one (validate_node_iff.mp valid).1.count
  exact ⟨child, rfl⟩

end Expr

namespace Conditions

variable {conditions : Conditions} {level frame : Nat} {self : Evaluator}

/-- Expressions that may be evaluated meet the conditions in a row. -/
theorem MeetsAll.evalAll (meets : conditions.MeetsAll self) {exprs : List Expr}
    (admitted : ∀ expr ∈ exprs, conditions.admits expr frame) :
    conditions.Meets level (AllFit conditions.fit) (Evaluation.evalAll self frame exprs) := by
  -- By induction on the expressions.
  induction exprs with
  | nil => exact .pure nofun
  | cons expr rest ih =>
    -- The first failure ends everything, so that the rest starts only from a fit value.
    refine (meets level expr frame (admitted expr (by simp))).bind fun value fit => ?_
    refine (ih fun other member => admitted other (by simp [member])).bind fun values fits => ?_
    exact .pure (allFit_cons.mpr ⟨fit, fits⟩)

/-- The bodies of loops meet the conditions. -/
theorem MeetsAll.evalBody (meets : conditions.MeetsAll self) {items : List Expr}
    (admitted : ∀ item ∈ items, conditions.admits item frame) :
    conditions.Meets level (fun _ => True) (Evaluation.evalBody self frame items) := by
  -- By induction on the items.
  induction items with
  | nil => exact .pure trivial
  | cons item rest ih =>
    -- What an item yields is of no interest; that the conditions still hold is.
    have first := (meets level item frame (admitted item (by simp))).discard
    refine first.bind fun _ _ => ?_
    exact ih fun other member => admitted other (by simp [member])

end Conditions

namespace Bylaws

variable {conditions : Conditions} (bylaws : Bylaws conditions) {context : Context}
  {level frame : Nat} {self : Evaluator} {operation : Operation} {name : Option Name}
  {children : List Expr}

include bylaws

/-- What is done with the two children of a node meets the conditions if it does on any two. -/
theorem pair_bind {α : Type} {yields : α → Prop} {next : Expr × Expr → Evaluation α} {expr : Expr}
    (whole : conditions.admits expr frame)
    (two : expr.validate = .ok () → ∃ parts, Expr.pair operation children = .ok parts)
    (rest : ∀ first second, children = [first, second] →
      conditions.Meets level yields (next (first, second))) :
    conditions.Meets level yields (Evaluation.ofShape (Expr.pair operation children) >>= next) :=
  (bylaws.ofShape whole two).bind fun parts shaped =>
    rest parts.1 parts.2 (Expr.children_of_pair shaped)

/-- Operators between two operands meet the conditions. -/
theorem evalBinary_meets (meets : conditions.MeetsAll self) (two : operation.arity = .fixed 2)
    (strict : operation.isSpecial = false)
    (whole : conditions.admits (.node operation name children) frame)
    (admitted : ∀ child ∈ children, conditions.admits child frame) :
    conditions.Meets level (Fits conditions.fit)
      (evalBinary context self frame operation children) := by
  -- The check has counted two operands, which are evaluated one after the other.
  refine bylaws.pair_bind whole (Expr.pair_of_validate two) fun first second parts => ?_
  subst parts
  refine (meets level first frame (admitted first (by simp))).bind fun x fit => ?_
  refine (meets level second frame (admitted second (by simp))).bind fun y fit' => ?_
  -- Numbers, texts and truth values hold no functions.
  exact bylaws.ofExcept (Operator.applyBinary_failsPlainly _ strict two x y)
    fun result computed => fits_of_not_isComposite (Operator.isComposite_of_applyBinary computed)

/-- Operators in front of an operand meet the conditions. -/
theorem evalUnary_meets (meets : conditions.MeetsAll self) (one : operation.arity = .fixed 1)
    (whole : conditions.admits (.node operation name children) frame)
    (admitted : ∀ child ∈ children, conditions.admits child frame) :
    conditions.Meets level (Fits conditions.fit) (evalUnary self frame operation children) := by
  -- The check has counted one operand.
  refine (bylaws.ofShape whole (Expr.single_of_validate one)).bind fun operand shaped => ?_
  have parts := Expr.children_of_single shaped
  subst parts
  refine (meets level operand frame (admitted operand (by simp))).bind fun x fit => ?_
  exact bylaws.ofExcept (Operator.applyUnary_failsPlainly one x) fun result computed =>
    fits_of_not_isComposite (Operator.isComposite_of_applyUnary computed)

/-- Operands that have to be truth values meet the conditions. -/
theorem evalTruth_meets (meets : conditions.MeetsAll self) (operation : Operation) {operand : Expr}
    (admitted : conditions.admits operand frame) :
    conditions.Meets level (fun _ => True) (evalTruth self frame operation operand) := by
  -- Whatever the operand yields is a truth value, or refused plainly.
  refine (meets level operand frame admitted).bind fun value fit => ?_
  cases value.boolean? with
  | some truth => exact .pure trivial
  | none => exact bylaws.raise trivial

/-- Conditions of selections and loops meet the conditions of a bylaws. -/
theorem evalCondition_meets (meets : conditions.MeetsAll self) (place : Place) {condition : Expr}
    (admitted : conditions.admits condition frame) :
    conditions.Meets level (fun _ => True) (evalCondition self frame place condition) := by
  -- Whatever the condition yields is a truth value, or refused plainly.
  refine (meets level condition frame admitted).bind fun value fit => ?_
  cases value.boolean? with
  | some truth => exact .pure trivial
  | none => exact bylaws.raise trivial

/-- Operators that may stop at their first operand meet the conditions. -/
theorem evalShortCircuit_meets (meets : conditions.MeetsAll self)
    (known : operation = .both ∨ operation = .either)
    (whole : conditions.admits (.node operation name children) frame)
    (admitted : ∀ child ∈ children, conditions.admits child frame) :
    conditions.Meets level (Fits conditions.fit)
      (evalShortCircuit self frame operation children) := by
  -- Both words of truth take two operands.
  have two : operation.arity = .fixed 2 := by rcases known with rfl | rfl <;> rfl
  refine bylaws.pair_bind whole (Expr.pair_of_validate two) fun first second parts => ?_
  subst parts
  refine (bylaws.evalTruth_meets meets operation (admitted first (by simp))).bind
    fun truth _ => ?_
  -- Truth values are fit, whichever operand they come from.
  have plain (truth : Bool) : Fits conditions.fit (.boolean truth) := fits_of_not_isComposite rfl
  have other : conditions.Meets level (Fits conditions.fit)
      (do return .boolean (← evalTruth self frame operation second)) := by
    refine (bylaws.evalTruth_meets meets operation (admitted second (by simp))).bind
      fun truth _ => ?_
    exact .pure (plain truth)
  -- The second operand is evaluated where the first one leaves the result open, and only there.
  rcases known with rfl | rfl <;> cases truth
  · exact .pure (plain false)
  · exact other
  · exact other
  · exact .pure (plain true)

/-- Sequences meet the conditions. -/
theorem evalSequence_meets (meets : conditions.MeetsAll self) {items : List Expr}
    (admitted : ∀ item ∈ items, conditions.admits item frame) :
    conditions.Meets level (Fits conditions.fit) (evalSequence self frame items) := by
  -- The cases are those of the sequence: no item, the last one, one with others behind it.
  induction items using evalSequence.induct with
  | case1 => exact bylaws.raise trivial
  | case2 last => exact meets level last frame (admitted last (by simp))
  | case3 item rest more ih =>
    rw [evalSequence.eq_3 self frame item rest more]
    refine (meets level item frame (admitted item (by simp))).discard.bind fun _ _ => ?_
    exact ih fun other member => admitted other (by simp [member])

/-- Bindings meet the conditions. -/
theorem evalBind_meets (meets : conditions.MeetsAll self)
    (whole : conditions.admits (.node .bind name children) frame) :
    conditions.Meets level (Fits conditions.fit) (evalBind self frame children) := by
  -- The check has counted a target and an expression for the value.
  refine bylaws.pair_bind whole (Expr.pair_of_validate rfl) fun aim expr parts => ?_
  subst parts
  have inner {child : Expr} (member : child ∈ [aim, expr]) : conditions.admits child frame :=
    bylaws.part whole rfl member
  cases aim with
  | literal | node =>
    -- A binding that is checked starts with a name.
    refine Triple.raise fun world held => bylaws.misshapen whole (fun valid => ?_) held
    obtain ⟨bound, value, same⟩ := (Expr.validate_node_iff.mp valid).1.target rfl
    cases same
  | symbol target =>
    refine (meets level expr frame (inner (by simp))).bind fun value fit => ?_
    refine Triple.get_bind fun world held => ?_
    -- The name keeps its value if the frame binds it already, and takes the new one otherwise.
    split
    · have found : conditions.Meets level (Fits conditions.fit) (Evaluation.lookup frame target) :=
        bylaws.lookup_meets (inner (by simp))
      exact Triple.here found held
    · have bound : conditions.Meets level (fun _ => True) (Evaluation.bind frame target value) :=
        .modify fun _ kept => bylaws.bind (bylaws.target whole) fit kept
      exact Triple.here (bound.bind fun _ _ => .pure fit) held

/-- Arms of a selection meet the conditions. -/
theorem evalSelect_meets (meets : conditions.MeetsAll self)
    (whole : conditions.admits (.node .select name children) frame) {arms : List Expr}
    (within : ∀ arm ∈ arms, arm ∈ children) :
    conditions.Meets level (Fits conditions.fit) (evalSelect self frame arms) := by
  -- By induction on the arms that are still to be tried; all of them stay children of the node.
  induction arms with
  | nil => exact bylaws.raise trivial
  | cons arm rest ih =>
    have member := within arm (by simp)
    unfold evalSelect
    split
    case h_1 => contradiction
    case h_2 token branches rest' same =>
      obtain ⟨rfl, rfl⟩ := List.cons.inj same
      -- The check of the selection looks at its arms as well, so that each of them has two parts.
      have two (valid : (Expr.node .select name children).validate = .ok ()) :
          ∃ parts, Expr.pair .pair branches = .ok parts :=
        Expr.pair_of_validate rfl ((Expr.validate_node_iff.mp valid).2 _ member)
      refine bylaws.pair_bind whole two fun antecedent consequent parts => ?_
      subst parts
      refine (bylaws.evalCondition_meets meets .antecedent
        (bylaws.arm whole member (by simp))).bind fun truth _ => ?_
      -- The first arm that holds gives the value, and the arms behind it are not looked at.
      cases truth with
      | true => exact meets level consequent frame (bylaws.arm whole member (by simp))
      | false => exact ih fun other among => within other (by simp [among])
    case h_3 other rest' stray same =>
      obtain ⟨rfl, rfl⟩ := List.cons.inj same
      -- What is no pair would have been refused with the selection.
      refine Triple.raise fun world held => bylaws.misshapen whole (fun valid => ?_) held
      have pairs := (Expr.validate_node_iff.mp valid).1.arms rfl arm member
      cases arm with
      | literal => cases pairs
      | symbol => cases pairs
      | node operation token branches =>
        cases pairs
        exact stray token branches rfl

/-- Definitions meet the conditions. -/
theorem evalDefine_meets (whole : conditions.admits (.node .define name children) frame) :
    conditions.Meets level (Fits conditions.fit) (evalDefine frame name children) := by
  -- What has passed the check has a header and a body.
  have all (valid : (Expr.node .define name children).validate = .ok ()) :
      ∃ parts, Expr.definition .define children = .ok parts :=
    (Expr.validate_node_iff.mp valid).1.parts rfl
  refine (bylaws.ofShape whole all).bind fun parts shaped => ?_
  -- A type that is not found is one of those that the definition names.
  have params : conditions.Meets level (fun params => resolveParams parts.params = .ok params)
      (Evaluation.ofExcept (resolveParams parts.params)) := by
    refine Triple.ofExcept (fun _ yielded _ held => ⟨yielded, held⟩) fun error failed _ held => ?_
    obtain ⟨type, member, unknown, rfl⟩ := resolveParams_eq_error failed
    exact bylaws.unknownType whole shaped (List.mem_append_left _ member) unknown held
  refine params.bind fun params resolved => ?_
  have result : conditions.Meets level
      (fun returnType => resolveReturn parts.returnType = .ok returnType)
      (Evaluation.ofExcept (resolveReturn parts.returnType)) := by
    refine Triple.ofExcept (fun _ yielded _ held => ⟨yielded, held⟩) fun error failed _ held => ?_
    obtain ⟨type, member, unknown, rfl⟩ := resolveReturn_eq_error failed
    exact bylaws.unknownType whole shaped (List.mem_append_right _ member) unknown held
  refine result.bind fun returnType resolved' => ?_
  -- The function is made with the next number, which is then taken.
  have numbered : conditions.Meets level (fun id =>
      conditions.fit ⟨id, name, params, returnType, parts.body, frame⟩) nextDefinition :=
    Triple.modifyGet fun world held =>
      ⟨bylaws.define whole shaped resolved resolved' held, bylaws.counted held⟩
  refine numbered.bind fun id made => ?_
  have fit : Fits conditions.fit
      (.function (.closure ⟨id, name, params, returnType, parts.body, frame⟩)) := by
    intro closure member
    rw [closures, List.mem_singleton] at member
    rwa [member]
  cases name with
  | none => exact .pure fit
  | some name =>
    have bound : conditions.Meets level (fun _ => True) (Evaluation.bind frame name _) :=
      .modify fun _ held => bylaws.bind (bylaws.named whole) fit held
    exact bound.bind fun _ _ => .pure fit

/-- Nodes that are neither calls nor loops meet the conditions if what lies below them does. -/
theorem evalNode_meets (meets : conditions.MeetsAll self) (rounds : Nat)
    (whole : conditions.admits (.node operation name children) frame) (still : operation ≠ .call)
    (once : operation ≠ .loop) :
    conditions.Meets level (Fits conditions.fit)
      (evalNode context self rounds frame operation name children) := by
  -- All nodes but a few have their children evaluated.
  have parts (inner : operation.takesApart = false) :
      ∀ child ∈ children, conditions.admits child frame :=
    fun child member => bylaws.part whole inner member
  -- The cases are those of evaluation; what is left at the end are operators between two operands.
  cases operation
  case call => exact absurd rfl still
  case loop => exact absurd rfl once
  case negate | negation => exact bylaws.evalUnary_meets meets rfl whole (parts rfl)
  case both => exact bylaws.evalShortCircuit_meets meets (.inl rfl) whole (parts rfl)
  case either => exact bylaws.evalShortCircuit_meets meets (.inr rfl) whole (parts rfl)
  case list =>
    refine (meets.evalAll (parts rfl)).bind fun values fits => ?_
    exact .pure fits
  case sequence => exact bylaws.evalSequence_meets meets (parts rfl)
  case bind => exact bylaws.evalBind_meets meets whole
  case select => exact bylaws.evalSelect_meets meets whole fun _ member => member
  case define => exact bylaws.evalDefine_meets whole
  case pair => exact .raise fun world held => bylaws.strayPair whole held
  case symbol =>
    refine Triple.raise fun world held => bylaws.misshapen whole (fun valid => ?_) held
    exact (Expr.validate_node_iff.mp valid).1.inner rfl
  all_goals exact bylaws.evalBinary_meets meets rfl rfl whole (parts rfl)

end Bylaws

namespace Contract

variable {conditions : Conditions} {context : Context} (contract : Contract conditions context)
  {level frame : Nat} {self : Evaluator} {operation : Operation} {name : Option Name}
  {children : List Expr}

include contract

/-- With the body of a loop, what each round evaluates may be evaluated. -/
theorem admits_of_loopItems {body item : Expr} (admitted : conditions.admits body frame)
    (member : item ∈ loopItems body) : conditions.admits item frame := by
  -- A sequence is taken apart into its items, and anything else is an item by itself.
  rcases mem_loopItems member with rfl | ⟨name, items, rfl, member⟩
  · exact admitted
  · exact contract.part admitted rfl member

/-- Rounds of a loop meet the conditions. -/
theorem evalRounds_meets (meets : conditions.MeetsAll self) {condition body : Expr}
    (admitted : conditions.admits condition frame) (admitted' : conditions.admits body frame)
    (rounds : Nat) :
    conditions.Meets level (Fits conditions.fit)
      (evalRounds self frame condition body rounds) := by
  -- By induction on the rounds that are left.
  induction rounds with
  | zero => exact .throw fun _ held => contract.exhausted held
  | succ rounds ih =>
    -- A round asks whether to stop, and tests the condition only if nobody wants that.
    refine Triple.bind contract.poll_triple fun _ => ?_
    have tested : Triple (conditions.Asked level) (note .tested)
        (fun _ => conditions.running level) (conditions.stopped level) :=
      .modify fun _ asked => contract.tested (contract.running_of_asked asked).1
        (contract.running_of_asked asked).2
    refine tested.bind fun _ => ?_
    refine (contract.evalCondition_meets meets .loopCondition admitted).bind fun truth _ => ?_
    cases truth with
    | true =>
      refine (meets.evalBody fun item member =>
        contract.admits_of_loopItems admitted' member).bind fun _ _ => ?_
      exact ih
    | false => exact .pure nofun

/-- Loops meet the conditions. -/
theorem evalLoop_meets (meets : conditions.MeetsAll self)
    (whole : conditions.admits (.node .loop name children) frame)
    (admitted : ∀ child ∈ children, conditions.admits child frame) (rounds : Nat) :
    conditions.Meets level (Fits conditions.fit) (evalLoop self rounds frame children) := by
  -- A loop has a condition and a body, and any number of rounds.
  refine contract.pair_bind whole (Expr.pair_of_validate rfl) fun condition body parts => ?_
  subst parts
  exact contract.evalRounds_meets meets (admitted condition (by simp)) (admitted body (by simp))
    rounds

/-- The function of a call is fit, and the expressions for its arguments may be evaluated. -/
theorem evalCallee_meets (meets : conditions.MeetsAll self)
    (whole : conditions.admits (.node .call name children) frame) :
    conditions.Meets level (fun found => Fits conditions.fit found.1 ∧
        ∀ argument ∈ found.2, conditions.admits argument frame)
      (evalCallee self frame name children) := by
  -- The children of a call may be evaluated, whether they are its function or its arguments.
  have parts : ∀ child ∈ children, conditions.admits child frame := fun child member =>
    contract.part whole rfl member
  cases name with
  | some name =>
    -- Called by its name, the function is looked up, and all children are arguments.
    refine (contract.lookup_meets (contract.callee whole)).bind fun found fit => ?_
    exact .pure ⟨fit, parts⟩
  | none =>
    cases children with
    | nil =>
      -- A checked call without a name has at least a definition among its children.
      refine Triple.raise fun world held => contract.misshapen whole (fun valid => ?_) held
      obtain ⟨function, arguments, same, -⟩ := (Expr.validate_node_iff.mp valid).1.callee rfl rfl
      cases same
    | cons definition arguments =>
      refine (meets level definition frame (parts definition (by simp))).bind fun found fit => ?_
      exact .pure ⟨fit, fun argument member => parts argument (by simp [member])⟩

/-- Calls in expressions meet the conditions. -/
theorem evalCall_meets (meets : conditions.MeetsAll self)
    (whole : conditions.admits (.node .call name children) frame) :
    conditions.Meets level (Fits conditions.fit) (evalCall context self frame name children) := by
  -- The function is found first, and whatever was found is fit.
  refine (contract.evalCallee_meets meets whole).bind fun callee both => ?_
  obtain ⟨found, arguments⟩ := callee
  obtain ⟨fit, parts⟩ := both
  -- Anything but a function is refused before its arguments are evaluated.
  cases found with
  | function function =>
    refine (meets.evalAll parts).bind fun values fits => ?_
    exact contract.call_meets meets fit fits
  | integer | real | string | boolean | list => exact contract.raise trivial

/-- Nodes meet the conditions if what lies below them does. -/
theorem evalNode_meets (meets : conditions.MeetsAll self) (rounds : Nat)
    (whole : conditions.admits (.node operation name children) frame) :
    conditions.Meets level (Fits conditions.fit)
      (evalNode context self rounds frame operation name children) := by
  -- Calls and loops are what the conditions of a contract are for.
  by_cases calls : operation = .call
  · subst calls
    exact contract.evalCall_meets meets whole
  by_cases loops : operation = .loop
  · subst loops
    refine contract.evalLoop_meets meets whole (fun child member => ?_) rounds
    exact contract.part whole rfl member
  -- All other nodes keep to what holds without calls and loops.
  exact contract.toBylaws.evalNode_meets meets rounds whole calls loops

/-- Evaluation meets the conditions, however many steps it is given. -/
theorem eval_meets (steps : Nat) : conditions.MeetsAll (eval context steps) := by
  -- The steps bound all recursion, through nodes and through the bodies of called functions.
  induction steps with
  | zero => exact fun level expr frame admitted => .throw fun _ held => contract.exhausted held
  | succ steps ih =>
    intro level expr frame admitted
    cases expr with
    | literal token value => exact .pure (fits_of_not_isComposite (by cases value <;> rfl))
    | symbol name => exact contract.lookup_meets admitted
    | node operation name children => exact contract.evalNode_meets ih steps admitted

end Contract

end Scriptlet

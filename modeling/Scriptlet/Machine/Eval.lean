import Scriptlet.Machine.Call
import Scriptlet.Operator

/-!
Evaluation of expressions in frames.

The parts of a node are evaluated from left to right, and the first failure ends everything.
Each function here takes the evaluation of what lies below a node as an argument;
the last one ties the knot, and goes no more than a given number of steps deep.
-/

namespace Scriptlet.Evaluation

/-- The values of expressions, from left to right. -/
def evalAll (self : Evaluator) (frame : Nat) : List Expr → Evaluation (List Value)
  | [] => pure []
  | expr :: rest => do
    let value ← self expr frame
    let values ← evalAll self frame rest
    return value :: values

/-- A node of an operator between two operands. -/
def evalBinary (context : Context) (self : Evaluator) (frame : Nat) (operation : Operation)
    (children : List Expr) : Evaluation Value := do
  let (left, right) ← ofShape (Expr.pair operation children)
  let x ← self left frame
  let y ← self right frame
  ofExcept (Operator.applyBinary context.settings.tolerance operation x y)

/-- A node of an operator in front of one operand. -/
def evalUnary (self : Evaluator) (frame : Nat) (operation : Operation) (children : List Expr) :
    Evaluation Value := do
  let operand ← ofShape (Expr.single operation children)
  let x ← self operand frame
  ofExcept (Operator.applyUnary operation x)

/-- An operand that has to be a truth value. -/
def evalTruth (self : Evaluator) (frame : Nat) (operation : Operation) (operand : Expr) :
    Evaluation Bool := do
  let value ← self operand frame
  match value.boolean? with
  | some truth => return truth
  | none => raise (.badOperand operation value.type)

/-- A node whose second operand matters only if the first one leaves the result open. -/
def evalShortCircuit (self : Evaluator) (frame : Nat) (operation : Operation)
    (children : List Expr) : Evaluation Value := do
  let (left, right) ← ofShape (Expr.pair operation children)
  let truth ← evalTruth self frame operation left
  match operation with
  | .both => if truth then return .boolean (← evalTruth self frame operation right)
             else return .boolean false
  | .either => if truth then return .boolean true
               else return .boolean (← evalTruth self frame operation right)
  | _ => raise (.badShape ⟨operation, .notShortCircuit⟩)

/-- A condition, which has to be a truth value. -/
def evalCondition (self : Evaluator) (frame : Nat) (place : Place) (condition : Expr) :
    Evaluation Bool := do
  let value ← self condition frame
  match value.boolean? with
  | some truth => return truth
  | none => raise (.typeMismatch place .boolean value.type)

/-- The items of a sequence; the last one gives the value. -/
def evalSequence (self : Evaluator) (frame : Nat) : List Expr → Evaluation Value
  | [] => raise .emptySequence
  | [last] => self last frame
  | item :: rest => do
    discard (self item frame)
    evalSequence self frame rest

/-- A binding; its value is what the name is bound to afterwards. -/
def evalBind (self : Evaluator) (frame : Nat) (children : List Expr) : Evaluation Value := do
  let (target, expr) ← ofShape (Expr.pair .bind children)
  match target.symbol? with
  | none => raise (.badShape ⟨.bind, .targetNotSymbol⟩)
  | some name =>
    let value ← self expr frame
    if (← get).heap.binds frame name then lookup frame name
    else
      bind frame name value
      return value

/-- The consequent of the first arm whose antecedent holds. -/
def evalSelect (self : Evaluator) (frame : Nat) : List Expr → Evaluation Value
  | [] => raise .noMatch
  | .node .pair _ arm :: rest => do
    let (antecedent, consequent) ← ofShape (Expr.pair .pair arm)
    if ← evalCondition self frame .antecedent antecedent then self consequent frame
    else evalSelect self frame rest
  | other :: _ => raise (.badShape ⟨.select, .armNotPair other.text⟩)

/-- The items of a loop's body, whose values nobody needs. -/
def evalBody (self : Evaluator) (frame : Nat) : List Expr → Evaluation Unit
  | [] => pure ()
  | item :: rest => do
    discard (self item frame)
    evalBody self frame rest

/-- The expressions that each round of a loop evaluates. -/
def loopItems (body : Expr) : List Expr :=
  if body.operation? == some .sequence then body.children else [body]

/-- Evaluate a body as long as a condition holds, for a number of rounds at most. -/
def evalRounds (self : Evaluator) (frame : Nat) (condition body : Expr) : Nat → Evaluation Value
  | 0 => throw .exhausted
  | rounds + 1 => do
    poll
    note .tested
    if ← evalCondition self frame .loopCondition condition then
      evalBody self frame (loopItems body)
      evalRounds self frame condition body rounds
    else return .emptyList

/-- A loop. -/
def evalLoop (self : Evaluator) (rounds frame : Nat) (children : List Expr) :
    Evaluation Value := do
  let (condition, body) ← ofShape (Expr.pair .loop children)
  evalRounds self frame condition body rounds

/-- The type that a parameter or a result is declared with. -/
def resolveType (name : Name) : Except EvalError ValueType :=
  match ValueType.ofName? name.text with
  | some type => .ok type
  | none => .error (.badShape ⟨.define, .unknownType name⟩)

/-- The types that parameters are declared with. -/
def resolveParams : List (Name × Name) → Except EvalError (List (Name × ValueType))
  | [] => .ok []
  | (name, type) :: rest => do
    let resolved ← resolveType type
    return (name, resolved) :: (← resolveParams rest)

/-- The type that results are declared with, if there is one. -/
def resolveReturn : Option Name → Except EvalError (Option ValueType)
  | none => .ok none
  | some type => (resolveType type).map some

/-- The number of a new definition. -/
def nextDefinition : Evaluation Nat :=
  modifyGet fun world => (world.definitions, { world with definitions := world.definitions + 1 })

/-- The definition of a function, which is bound if it has a name and the name is free. -/
def evalDefine (frame : Nat) (name : Option Name) (children : List Expr) : Evaluation Value := do
  let parts ← ofShape (Expr.definition .define children)
  let params ← ofExcept (resolveParams parts.params)
  let returnType ← ofExcept (resolveReturn parts.returnType)
  let id ← nextDefinition
  let value := Value.function (.closure ⟨id, name, params, returnType, parts.body, frame⟩)
  if let some name := name then bind frame name value
  return value

/-- The function of a call and the expressions for its arguments. -/
def evalCallee (self : Evaluator) (frame : Nat) (name : Option Name) (children : List Expr) :
    Evaluation (Value × List Expr) := do
  match name, children with
  | some name, arguments => return (← lookup frame name, arguments)
  | none, definition :: arguments => return (← self definition frame, arguments)
  | none, [] => raise (.badShape ⟨.call, .noFunction⟩)

/-- A call; whether the function is one is looked at before the arguments are. -/
def evalCall (context : Context) (self : Evaluator) (frame : Nat) (name : Option Name)
    (children : List Expr) : Evaluation Value := do
  let (callee, arguments) ← evalCallee self frame name children
  match callee with
  | .function function =>
    let values ← evalAll self frame arguments
    call context self function values
  | other => raise (.notCallable other.type)

/-- The value of a node. -/
def evalNode (context : Context) (self : Evaluator) (rounds frame : Nat) (operation : Operation)
    (name : Option Name) (children : List Expr) : Evaluation Value :=
  match operation with
  | .negate | .negation => evalUnary self frame operation children
  | .both | .either => evalShortCircuit self frame operation children
  | .list => do return .list (← evalAll self frame children)
  | .sequence => evalSequence self frame children
  | .bind => evalBind self frame children
  | .select => evalSelect self frame children
  | .loop => evalLoop self rounds frame children
  | .define => evalDefine frame name children
  | .call => evalCall context self frame name children
  | .pair => raise (.badShape ⟨.pair, .strayPair⟩)
  | .symbol => raise (.badShape ⟨.symbol, .innerSymbol⟩)
  | _ => evalBinary context self frame operation children

/-- The value of an expression in a frame, within a number of steps. -/
def eval (context : Context) : (steps : Nat) → Expr → (frame : Nat) → Evaluation Value
  | 0, _, _ => throw .exhausted
  | steps + 1, expr, frame =>
    match expr with
    | .literal _ value => pure (.ofLiteral value)
    | .symbol name => lookup frame name
    | .node operation name children =>
      evalNode context (eval context steps) steps frame operation name children

end Scriptlet.Evaluation

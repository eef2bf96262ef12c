import Scriptlet.Library
import Scriptlet.Machine.World

/-! Calls: the checks before and after them, and what they run. -/

namespace Scriptlet

/-- What an evaluation depends on besides the world. -/
structure Context where
  /-- The settings of the interpreter. -/
  settings : Settings
  /-- The host. -/
  host : Host

/-- How expressions are evaluated in frames. -/
abbrev Evaluator := Expr → Nat → Evaluation Value

namespace Function

/-- Arguments converted to the types of their parameters; `position` counts them from one. -/
def convertArguments (function : Function) :
    (position : Nat) → List (Option ValueType) → List Value → Except EvalError (List Value)
  | position, none :: params, value :: rest => do
    return value :: (← function.convertArguments (position + 1) params rest)
  | position, some required :: params, value :: rest => do
    if !value.type.conformsTo required then
      throw (.typeMismatch (.argument position function.displayName) required value.type)
    return value.converted required :: (← function.convertArguments (position + 1) params rest)
  | _, _, _ => .ok []

/-- The arguments of a call, checked against the parameters and converted to their types. -/
def checkArguments (function : Function) (arguments : List Value) :
    Except EvalError (List Value) :=
  if arguments.length != function.arity then
    .error (.wrongArity function.displayName function.arity arguments.length)
  else function.convertArguments 1 function.params arguments

/-- The result of a call, checked against the declared type and converted to it. -/
def checkResult (function : Function) (result : Value) : Except EvalError Value :=
  match function.returnType with
  | none => .ok result
  | some required =>
    if result.type.conformsTo required then .ok (result.converted required)
    else .error (.typeMismatch (.result function.displayName) required result.type)

end Function

namespace Evaluation

/-- Fail if no further call may be under way. -/
def checkDepth (context : Context) : Evaluation Unit := do
  match context.settings.maxDepth with
  | none => pure ()
  | some limit => if limit ≤ (← get).depth then raise (.tooDeep limit)

/-- Count a call as under way. -/
def enter (function : Function) (arguments : List Value) : Evaluation Unit :=
  modify fun world => { world with depth := world.depth + 1 }.note (.entered function arguments)

/-- The world after a call that was under way. -/
def afterCall (world : World) : World :=
  { world with depth := world.depth - 1 }.note .left

/-- Do something as a call, which ends even when it fails. -/
def underWay (function : Function) (arguments : List Value) (body : Evaluation Value) :
    Evaluation Value := fun world =>
  match (do enter function arguments; body : Evaluation Value) world with
  | .ok value world => .ok value (afterCall world)
  | .error stop world => .error stop (afterCall world)

/-- Bind parameters to arguments; of two parameters of one name the first is bound. -/
def bindAll (frame : Nat) : List (Name × ValueType) → List Value → Evaluation Unit
  | (name, _) :: params, value :: values => do
    bind frame name value
    bindAll frame params values
  | _, _ => pure ()

/-- Put a new frame into another. -/
def extend (parent : Nat) : Evaluation Nat :=
  modifyGet fun world => (world.heap.next, { world with heap := world.heap.extend parent })

/-- Evaluate the body of a script's function in a frame of its own. -/
def runClosure (self : Evaluator) (closure : Closure) (arguments : List Value) :
    Evaluation Value := do
  let frame ← extend closure.frame
  bindAll frame closure.params arguments
  self closure.body frame

/-- Take the answer of the host to a call that has been written down already. -/
def runHost (context : Context) (function : HostFunction) (arguments : List Value) :
    Evaluation Value := do
  let earlier := (← get).hostCalls.tail
  let reply := context.host earlier ⟨function, arguments⟩
  if reply.interrupts then modify fun world => { world with interrupted := true }
  match reply.result with
  | .ok value => return value
  | .error error =>
    note (.hostRaised error)
    throw (.failed error)

/-- What a function does with checked arguments. -/
def run (context : Context) (self : Evaluator) (function : Function) (arguments : List Value) :
    Evaluation Value :=
  match function with
  | .closure closure => runClosure self closure arguments
  | .builtin builtin => ofExcept (builtin.apply context.settings.places arguments)
  | .host host => runHost context host arguments

/-- Call a function. -/
def call (context : Context) (self : Evaluator) (function : Function) (arguments : List Value) :
    Evaluation Value := do
  poll
  let arguments ← ofExcept (function.checkArguments arguments)
  checkDepth context
  let result ← underWay function arguments (run context self function arguments)
  ofExcept (function.checkResult result)

end Evaluation

end Scriptlet

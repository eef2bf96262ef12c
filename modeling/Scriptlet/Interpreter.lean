import Scriptlet.Build.Builder
import Scriptlet.Machine.Eval

/-! An interpreter: a root frame in which scripts are evaluated, one after the other. -/

namespace Scriptlet

/-- Why a script has no value. -/
inductive RunError where
  /-- No expression can be built from it. -/
  | build (error : BuildError)
  /-- Its evaluation yields no value. -/
  | stop (stop : Stop)
  deriving DecidableEq

namespace RunError

/-- The error in words. -/
def message : RunError → String
  | build error => error.message
  | stop (.failed error) => error.message
  | stop .exhausted => "evaluation exhausted"

/-- The stage that failed. -/
def phase : RunError → String
  | build _ => "build"
  | stop _ => "runtime"

/-- The kind of error that is reported. -/
def kind : RunError → String
  | build (.badNumber ..) => "NumberFormatError"
  | build _ => "SyntaxError"
  | stop (.failed error) => error.kind
  | stop .exhausted => "ExhaustedError"

end RunError

/-- An interpreter. -/
structure Interpreter where
  /-- What stays fixed while it lives. -/
  settings : Settings
  /-- The decimal separator of scripts. -/
  separator : Char
  /-- What it works on. -/
  world : World
  /-- The values of expressions that need not be evaluated again. -/
  cache : List (Expr × Value)
  deriving Inhabited

namespace Interpreter

/-- The frame in which scripts are evaluated. -/
def root : Nat :=
  0

/-- How deep evaluation may go; no machine has room for more. -/
def steps : Nat :=
  0x4000000000000000

/-- Bind names in a frame, unless the frame binds them already. -/
def bindAll (world : World) (frame : Nat) (bindings : List (Name × Value)) : World :=
  bindings.foldl (fun world (name, value) => world.bind frame name value) world

/-- A new interpreter; what the host binds goes before what the library binds. -/
def start (settings : Settings) (separator : Char) (bindings : List (Name × Value)) :
    Interpreter :=
  let bound := bindAll .initial root bindings
  let world := if settings.intrinsics then bindAll bound root library else bound
  { settings, separator, world, cache := [] }

/-- What evaluations of an interpreter depend on. -/
def context (interpreter : Interpreter) (host : Host) : Context :=
  ⟨interpreter.settings, host⟩

/-- Do an evaluation in the world of an interpreter. -/
def perform {α : Type} (interpreter : Interpreter) (evaluation : Evaluation α) :
    Except Stop α × Interpreter :=
  match evaluation interpreter.world with
  | .ok value world => (.ok value, { interpreter with world })
  | .error stop world => (.error stop, { interpreter with world })

/-- Evaluate an expression in a frame once the shape of all its nodes has been checked. -/
def evalIn (interpreter : Interpreter) (host : Host) (expr : Expr) (frame : Nat) :
    Except Stop Value × Interpreter :=
  interpreter.perform do
    Evaluation.ofShape expr.validate
    Evaluation.eval (interpreter.context host) steps expr frame

/-- Evaluate an expression in the root frame. -/
def evaluate (interpreter : Interpreter) (host : Host) (expr : Expr) :
    Except Stop Value × Interpreter :=
  interpreter.evalIn host expr root

/-- The value of an expression that need not be evaluated again. -/
def cached? (interpreter : Interpreter) (expr : Expr) : Option Value :=
  interpreter.cache.lookup expr

/-- Keep the value of an expression, if it will be the same at any time. -/
def remember (interpreter : Interpreter) (expr : Expr) (value : Value) : Interpreter :=
  if expr.isDeterministic then
    { interpreter with cache := (expr, value) :: interpreter.cache }
  else interpreter

/-- Evaluate an expression in the root frame, unless its value has been kept. -/
def evaluateCached (interpreter : Interpreter) (host : Host) (expr : Expr) :
    Except Stop Value × Interpreter :=
  match interpreter.cached? expr with
  | some value => (.ok value, interpreter)
  | none =>
    match interpreter.evaluate host expr with
    | (.ok value, after) => (.ok value, after.remember expr value)
    | (.error stop, after) => (.error stop, after)

/-- Forget all values that were kept. -/
def clearCache (interpreter : Interpreter) : Interpreter :=
  { interpreter with cache := [] }

/-- Build the expression that a tree means, and evaluate it in the root frame. -/
def run (interpreter : Interpreter) (host : Host) (tree : Tree) (builder : Builder) :
    Except RunError Value × Interpreter :=
  match builder.build interpreter.separator tree with
  | .error error => (.error (.build error), interpreter)
  | .ok expr =>
    let (outcome, after) := interpreter.evaluate host expr
    (outcome.mapError .stop, after)

/-- Call a function. -/
def call (interpreter : Interpreter) (host : Host) (function : Function) (arguments : List Value) :
    Except Stop Value × Interpreter :=
  let context := interpreter.context host
  interpreter.perform
    (Evaluation.call context (Evaluation.eval context steps) function arguments)

/-- Ask the evaluations of an interpreter to stop, or no longer. -/
def setInterrupted (interpreter : Interpreter) (interrupted : Bool) : Interpreter :=
  { interpreter with world := { interpreter.world with interrupted } }

/-- Bind a name in a frame; whether it was free is told. -/
def bind (interpreter : Interpreter) (frame : Nat) (name : Name) (value : Value) :
    Bool × Interpreter :=
  (!interpreter.world.heap.binds frame name,
    { interpreter with world := interpreter.world.bind frame name value })

/-- Put a new frame into another. -/
def child (interpreter : Interpreter) (frame : Nat) : Nat × Interpreter :=
  let heap := interpreter.world.heap
  (heap.next, { interpreter with world := { interpreter.world with heap := heap.extend frame } })

/-- Drop all bindings of a frame. -/
def clear (interpreter : Interpreter) (frame : Nat) : Interpreter :=
  let heap := interpreter.world.heap
  { interpreter with world := { interpreter.world with heap := heap.clear frame } }

end Interpreter

end Scriptlet

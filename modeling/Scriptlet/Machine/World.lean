import Scriptlet.EvalError
import Scriptlet.Heap

/-!
What evaluation works on: the frames, the calls under way, the wish to stop, and a journal.

The journal keeps what happens in a run, so that what a run does can be told from what it yields.
-/

namespace Scriptlet

/-- What stays fixed while an interpreter lives. -/
structure Settings where
  /-- The tolerance of approximate equality. -/
  tolerance : Float := 1e-6
  /-- How many decimal places real numbers have as text. -/
  places : Nat := 6
  /-- How many calls may be under way at a time, if there is a limit. -/
  maxDepth : Option Nat := none
  /-- Whether the built-in library is there. -/
  intrinsics : Bool := true
  deriving DecidableEq, Inhabited

/-- A call of a function of the host. -/
structure HostCall where
  /-- The function. -/
  function : HostFunction
  /-- The arguments, as checked. -/
  arguments : List Value
  deriving DecidableEq

/-- What the host answers to a call. -/
structure HostReply where
  /-- The result of the call. -/
  result : Except EvalError Value
  /-- Whether the evaluation is asked to stop. -/
  interrupts : Bool

/-- How the host answers a call, given all calls before it, the newest first. -/
abbrev Host := List HostCall → HostCall → HostReply

/-- Something that happens in a run. -/
inductive Happening where
  /-- It is asked whether to stop. -/
  | polled
  /-- The condition of a loop is about to be evaluated. -/
  | tested
  /-- A function starts on its checked arguments. -/
  | entered (function : Function) (arguments : List Value)
  /-- The function entered last ends, with a result or a failure. -/
  | left
  /-- A name gets its value in a frame. -/
  | bound (frame : Nat) (name : Name)
  /-- The evaluation fails. -/
  | raised (error : EvalError)
  /-- The host fails. -/
  | hostRaised (error : EvalError)
  deriving DecidableEq

/-- An entry of the journal. -/
structure Entry where
  /-- What happens. -/
  happening : Happening
  /-- How many calls are counted as under way. -/
  depth : Nat
  /-- Whether the run is asked to stop. -/
  interrupted : Bool
  deriving DecidableEq

/-- What evaluation works on. -/
structure World where
  /-- The frames. -/
  heap : Heap
  /-- How many calls are under way. -/
  depth : Nat
  /-- Whether the run is asked to stop. -/
  interrupted : Bool
  /-- How many functions scripts have defined. -/
  definitions : Nat
  /-- What has happened, the newest first. -/
  journal : List Entry
  deriving Inhabited

namespace World

/-- The world of a new interpreter. -/
def initial : World :=
  ⟨.initial, 0, false, 0, []⟩

/-- Write down what happens. -/
def note (world : World) (happening : Happening) : World :=
  { world with journal := ⟨happening, world.depth, world.interrupted⟩ :: world.journal }

/-- The call of the host that an entry tells of. -/
def hostCall? (entry : Entry) : Option HostCall :=
  match entry.happening with
  | .entered (.host function) arguments => some ⟨function, arguments⟩
  | _ => none

/-- The calls of the host, the newest first. -/
def hostCalls (world : World) : List HostCall :=
  world.journal.filterMap hostCall?

/-- Bind a name in a frame, and write it down unless the frame binds the name already. -/
def bind (world : World) (frame : Nat) (name : Name) (value : Value) : World :=
  if world.heap.binds frame name then world
  else { world with heap := world.heap.bind frame name value }.note (.bound frame name)

end World

/-- Why evaluation yields no value. -/
inductive Stop where
  /-- It fails. -/
  | failed (error : EvalError)
  /-- It has not come to an end within the steps it was given. -/
  | exhausted
  deriving DecidableEq

/-- An evaluation; what it does to the world stays done when it fails. -/
abbrev Evaluation := EStateM Stop World

namespace Evaluation

/-- Write down what happens. -/
def note (happening : Happening) : Evaluation Unit :=
  modify (·.note happening)

/-- Fail. -/
def raise {α : Type} (error : EvalError) : Evaluation α := do
  note (.raised error)
  throw (.failed error)

/-- Go on with a result, or fail. -/
def ofExcept {α : Type} : Except EvalError α → Evaluation α
  | .ok result => pure result
  | .error error => raise error

/-- Go on with a well-shaped node, or fail. -/
def ofShape {α : Type} : Except ShapeError α → Evaluation α
  | .ok result => pure result
  | .error error => raise (.badShape error)

/-- Go on with what a name is bound to, or fail. -/
def lookup (frame : Nat) (name : Name) : Evaluation Value := do
  match (← get).heap.lookup frame name with
  | some value => return value
  | none => raise (.unbound name)

/-- Bind a name, unless the frame binds it already. -/
def bind (frame : Nat) (name : Name) (value : Value) : Evaluation Unit :=
  modify (·.bind frame name value)

/-- Fail if the run is asked to stop. -/
def poll : Evaluation Unit := do
  note .polled
  if (← get).interrupted then raise .interrupted

end Evaluation

end Scriptlet

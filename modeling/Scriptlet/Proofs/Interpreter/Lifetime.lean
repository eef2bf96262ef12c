import Mathlib.Logic.Relation
import Scriptlet.Proofs.Interpreter.Service
import Scriptlet.Proofs.Machine.Signature

/-!
The life of a frame, from the world in which it comes about to any later one.

Main statement: a call that yields a value is as its function declares it, and as long as the frame
of a call lives, it binds the parameters to the arguments that were given for them. No binding and
no definition in the body changes that, nor anything that a host asks for after the call.
-/

namespace Scriptlet

open Evaluation Relation

/--
What may happen to a world while a frame lives.

Evaluation goes on or fails in it, in any run and with any host; and the host may bind names in any
frame, make frames, discard other frames, and say whether to stop.
-/
inductive Change (frame : Nat) : World → World → Prop where
  /-- Evaluation goes on. -/
  | step {context level level' written world world'}
      (step : Step context level world written level' world') : Change frame world world'
  /-- Evaluation fails. -/
  | fault {context level level' written error world world'}
      (fault : Fault context level world written level' error world') : Change frame world world'
  /-- A name is bound from outside. -/
  | bound {world} (place : Nat) (name : Name) (value : Value) :
      Change frame world (world.bind place name value)
  /-- A frame is made from outside. -/
  | framed {world} (parent : Nat) :
      Change frame world { world with heap := world.heap.extend parent }
  /-- Another frame is discarded. -/
  | discarded {world} (other : Nat) (differ : other ≠ frame) :
      Change frame world { world with heap := world.heap.clear other }
  /-- Evaluation is asked to stop, or no longer. -/
  | asked {world} (interrupted : Bool) : Change frame world { world with interrupted }

/-- Whether a frame lives on from one world to another, through all that happens between them. -/
def Lives (frame : Nat) : World → World → Prop :=
  ReflTransGen (Change frame)

section Keeping

variable {context : Context} {level level' : Nat} {written : List Entry} {error : EvalError}
  {frame place : Nat} {name bound : Name} {value : Value} {world world' : World}

/-- What a world binds stays bound when another name is bound, or the same one again. -/
theorem World.find?_bind (found : world.heap.find? frame name = some value) (other : Value) :
    (world.bind place bound other).heap.find? frame name = some value := by
  -- A binding is an instance of growth, which takes nothing away.
  have grown : Heap.Grown (fun _ _ => True) world.heap world.heap := .refl _
  rw [World.heap_bind]
  exact (grown.bind (.inr trivial)).kept found

/-- A step keeps what is bound. -/
theorem Step.find?_eq (step : Step context level world written level' world')
    (found : world.heap.find? frame name = some value) :
    world'.heap.find? frame name = some value := by
  -- Evaluation binds only what is free, and a new frame leaves the others alone.
  cases step with
  | bound other free => exact World.find?_bind found other
  | extended parent => rwa [Heap.find?_extend]
  -- Nothing else that evaluation does has to do with frames.
  | _ => exact found

/-- A fault keeps what is bound. -/
theorem Fault.find?_eq (fault : Fault context level world written level' error world')
    (found : world.heap.find? frame name = some value) :
    world'.heap.find? frame name = some value := by
  -- A fault writes down and leaves calls, and that is not in the frames.
  cases fault <;> exact found

/-- No change takes a binding from a frame that lives. -/
theorem Change.find?_eq (change : Change frame world world')
    (found : world.heap.find? frame name = some value) :
    world'.heap.find? frame name = some value := by
  -- The one change that drops bindings is made to another frame.
  cases change with
  | step step => exact step.find?_eq found
  | fault fault => exact fault.find?_eq found
  | bound place name other => exact World.find?_bind found other
  | framed parent => rwa [Heap.find?_extend]
  | discarded other differ => rwa [Heap.find?_clear_of_ne _ differ.symm]
  | asked interrupted => exact found

end Keeping

namespace Lives

variable {context : Context} {frame : Nat} {start later final : World}

/-- As long as a frame lives, a name that it binds keeps its value. -/
theorem find?_eq {name : Name} {value : Value} (lives : Lives frame start later)
    (found : start.heap.find? frame name = some value) :
    later.heap.find? frame name = some value := by
  -- One change after the other, each of which keeps the binding.
  induction lives with
  | refl => exact found
  | tail _ change ih => exact change.find?_eq ih

/-- As long as the frame of a call lives, the parameters stay bound to what was given for them. -/
theorem boundIn {closure : Closure} {arguments : List Value} (lives : Lives frame start later)
    (bound : closure.BoundIn arguments start.heap frame) :
    closure.BoundIn arguments later.heap frame := by
  -- What binds a formal name is a binding like any other.
  intro name formal
  obtain ⟨type, argument, first, found, typed⟩ := bound name formal
  exact ⟨type, argument, first, lives.find?_eq found, typed⟩

/-- Every frame is alive at any time of a run. -/
theorem of_course {level : Nat} {since : List Entry}
    (course : Course context start level since later) : Lives frame start later :=
  -- Each step of the run is a change.
  course.keeps (fun _ _ later => Lives frame start later) .refl
    fun lives step => lives.tail (.step step)

/-- Every frame is alive at the end of a run. -/
theorem of_ran {α : Type} {outcome : Except Stop α} {since : List Entry}
    (ran : Ran context start outcome since final) : Lives frame start final :=
  -- Each step of the run is a change, and so is the fault that may end it.
  ran.keeps (fun _ _ later => Lives frame start later) .refl
    (fun lives step => lives.tail (.step step)) fun lives fault => lives.tail (.fault fault)

/-- Every frame lives through an evaluation, be it in this frame or in another one. -/
theorem eval (steps : Nat) (expr : Expr) (place : Nat) (world : World) :
    Lives frame world ((Evaluation.eval context steps expr place).after world) := by
  -- Whatever an evaluation does is a course that it takes.
  have contract := coursing_contract context world
  obtain ⟨since, ran⟩ := exists_ran_of_meets (contract.eval_meets steps 0 expr place trivial)
  exact of_ran ran

end Lives

namespace Interpreter

variable {frame : Nat} (interpreter : Interpreter)

/-- Every frame lives through an evaluation that an interpreter is asked for. -/
theorem lives_evalIn (host : Host) (expr : Expr) (place : Nat) :
    Lives frame interpreter.world (interpreter.evalIn host expr place).2.world := by
  -- An evaluation in any frame is a run, and no run discards a frame.
  obtain ⟨since, ran⟩ := interpreter.exists_ran_evalIn host expr place
  exact .of_ran ran

/-- A frame lives through every request but the one that discards it. -/
theorem lives_serve {request : Request} (kept : request ≠ .clear frame) :
    Lives frame interpreter.world (interpreter.serve request).world := by
  -- Requests are runs, or single changes from outside.
  cases request with
  | evaluate host expr => exact interpreter.lives_evalIn host expr root
  | evaluateCached host expr =>
    change Lives frame _ (interpreter.evaluateCached host expr).2.world
    rcases interpreter.world_evaluateCached host expr with same | same
    · rw [same]
      exact .refl
    · rw [same]
      exact interpreter.lives_evalIn host expr root
  | evalIn host expr place => exact interpreter.lives_evalIn host expr place
  | run host tree builder =>
    change Lives frame _ (interpreter.run host tree builder).2.world
    rcases interpreter.world_run host tree builder with same | ⟨expr, same⟩
    · rw [same]
      exact .refl
    · rw [same]
      exact interpreter.lives_evalIn host expr root
  | call host function arguments =>
    obtain ⟨since, ran⟩ := interpreter.exists_ran_call host function arguments
    exact .of_ran ran
  | bind place name value => exact .single (.bound place name value)
  | child parent => exact .single (.framed parent)
  | clear other =>
    have differ : other ≠ frame := fun same => kept (congrArg Request.clear same)
    exact .single (.discarded other differ)
  | clearCache => exact .refl
  | setInterrupted interrupted => exact .single (.asked interrupted)

/-- A frame lives until a request discards it. -/
theorem lives_serve_all {requests : List Request}
    (kept : ∀ request ∈ requests, request ≠ .clear frame) :
    Lives frame interpreter.world (requests.foldl serve interpreter).world := by
  -- Discarding is excluded for each of the requests on its own.
  induction requests generalizing interpreter with
  | nil => exact .refl
  | cons request rest ih =>
    have first := interpreter.lives_serve (kept request List.mem_cons_self)
    have others : ∀ other ∈ rest, other ≠ .clear frame := fun other member =>
      kept other (List.mem_cons_of_mem _ member)
    exact first.trans (ih (interpreter.serve request) others)

end Interpreter

namespace Evaluation

/-- A call that has been entered comes to its end: its result is checked, and the call is left. -/
def finishing (function : Function) (body : Evaluation Value) : Evaluation Value := fun world =>
  match body world with
  | .ok result after => ofExcept (function.checkResult result) (afterCall after)
  | .error stop after => .error stop (afterCall after)

/-- A frame that lives through the body of a function is still alive when the call has ended. -/
theorem lives_finishing (context : Context) (function : Function) {frame : Nat}
    {body : Evaluation Value} {opened : World} (lives : Lives frame opened (body.after opened)) :
    Lives frame opened ((finishing function body).after opened) := by
  -- Leaving the call is a step like any other.
  have leave (after : World) : Change frame after (afterCall after) := by
    have step : Step context 1 after [after.leaving] 0 (afterCall after) := .left
    exact .step step
  cases ended : body opened with
  | error stop after =>
    simp only [Evaluation.after, finishing, ended] at lives ⊢
    exact lives.tail (leave after)
  | ok result after =>
    simp only [Evaluation.after, finishing, ended] at lives ⊢
    have left : Lives frame opened (afterCall after) := lives.tail (leave after)
    cases checked : function.checkResult result with
    | ok value => exact left
    | error error =>
      -- A result of another type is a failure that has nothing to do with stops and limits.
      have plain : error.Plain := function.checkResult_failsPlainly result error checked
      have fault : Fault context 0 (afterCall after) _ 0 error _ := .of_plain plain
      exact left.tail (.fault fault)

/--
Whether a call evaluates the body of its function from a world in which there is a new frame.

The frame lies in the one in which the function was defined, and binds the parameters as long as it
lives, which is to the end of the call at least.
-/
structure Opens (context : Context) (steps : Nat) (closure : Closure) (arguments : List Value)
    (world opened : World) : Prop where
  /-- There is one frame more than before. -/
  next_eq : opened.heap.next = world.heap.next + 1
  /-- The new frame lies in the one in which the function was defined. -/
  parent_eq : opened.heap.parent? world.heap.next = some closure.frame
  /-- The body is evaluated in the new frame, and the call comes to its end with that. -/
  call_eq : call context (eval context steps) (.closure closure) arguments world =
    finishing (.closure closure) (eval context steps closure.body world.heap.next) opened
  /-- The new frame binds each formal name to the first argument for it as long as it lives. -/
  bound : ∀ later, Lives world.heap.next opened later →
    closure.BoundIn arguments later.heap world.heap.next
  /-- The new frame is alive when the call ends. -/
  alive : Lives world.heap.next opened
    ((call context (eval context steps) (.closure closure) arguments).after world)

variable {context : Context} {steps : Nat} {closure : Closure} {arguments checked : List Value}
  {world : World}

/-- A call that passes all checks opens a frame for the body of its function. -/
theorem opens_of_checked (clear : world.interrupted = false)
    (given : (Function.closure closure).checkArguments arguments = .ok checked)
    (room : context.full? world = none) :
    Opens context steps closure arguments world
      (closure.opened checked ((world.note .polled).enter (.closure closure) checked)) := by
  -- The checks say what is passed on: the arguments suit, and they are widened.
  obtain ⟨-, suit, values⟩ := Function.checkArguments_eq_ok given
  -- To count the call and to write it down makes no frame, so the heap is that of the world.
  let entered : World := (world.note .polled).enter (.closure closure) checked
  have frames := closure.frames_opened checked entered
  have ran : run context (eval context steps) (.closure closure) checked entered =
      eval context steps closure.body world.heap.next (closure.opened checked entered) :=
    runClosure_apply
  have call_eq : call context (eval context steps) (.closure closure) arguments world =
      finishing (.closure closure) (eval context steps closure.body world.heap.next)
        (closure.opened checked entered) := by
    rw [call_apply, clear, given, room]
    simp only [Bool.false_eq_true, if_false]
    rw [ran]
    rfl
  refine ⟨frames.1, frames.2, call_eq, fun later lives => lives.boundIn ?_, ?_⟩
  · -- What is bound as the body begins lasts as long as the frame.
    rw [values]
    exact Closure.boundIn_opened suit
  · -- The frame lives through the body, and then through the end of the call.
    have through : Lives world.heap.next (closure.opened checked entered)
        ((eval context steps closure.body world.heap.next).after
          (closure.opened checked entered)) :=
      .eval steps closure.body world.heap.next _
    have ended := lives_finishing context (Function.closure closure) through
    unfold after at ended ⊢
    rw [call_eq]
    exact ended

/-- A call of a script's function fails before there is a frame for it, or it opens one. -/
theorem call_closure (context : Context) (steps : Nat) (closure : Closure)
    (arguments : List Value) (world : World) :
    (∃ stop after, call context (eval context steps) (.closure closure) arguments world =
      .error stop after ∧ after.heap = world.heap) ∨
    ∃ opened, Opens context steps closure arguments world opened := by
  -- A call can fail for a wish to stop, for its arguments and for the limit, in this order.
  cases asked : world.interrupted with
  | true =>
    rw [call_apply, asked]
    exact .inl ⟨_, _, rfl, rfl⟩
  | false =>
    cases given : (Function.closure closure).checkArguments arguments with
    | error error =>
      rw [call_apply, asked, given]
      exact .inl ⟨_, _, rfl, rfl⟩
    | ok checked =>
      cases room : context.full? world with
      | some limit =>
        rw [call_apply, asked, given, room]
        exact .inl ⟨_, _, rfl, rfl⟩
      | none => exact .inr ⟨_, opens_of_checked asked given room⟩

end Evaluation

namespace Interpreter

/-- What a host gets from a call is what the call has yielded. -/
theorem exists_call_of_host {interpreter : Interpreter} {host : Host} {function : Function}
    {arguments : List Value} {value : Value}
    (yielded : (interpreter.call host function arguments).1 = .ok value) :
    ∃ after, Evaluation.call (interpreter.context host)
      (eval (interpreter.context host) steps) function arguments interpreter.world =
        .ok value after := by
  -- The host is given the outcome of the very call.
  rw [Interpreter.call, perform_eq] at yielded
  simp only [Evaluation.outcome] at yielded
  split at yielded
  case h_1 found after called =>
    cases yielded
    exact ⟨after, called⟩
  case h_2 => cases yielded

/--
Every call honours the types that its function declares, and so does its frame as long as it lives.

What a call yields, be it for a node or for the host, it yields for as many arguments as declared,
each of its type or widening to it, and it has the declared type. A call of a script's function
fails before there is a frame for it, or it evaluates the body in a new frame. There every formal
name is bound to the first argument given for it, as widened, whatever is evaluated and in whichever
frame, and whatever an interpreter is asked to do afterwards, until the frame is discarded.
-/
theorem honours_call :
    (∀ (context : Context) (self : Evaluator) (function : Function) (arguments : List Value)
      (world after : World) (value : Value),
      Evaluation.call context self function arguments world = .ok value after →
        function.Honours arguments value) ∧
    (∀ (context : Context) (steps frame : Nat) (name : Option Name) (children : List Expr)
      (world after : World) (value : Value),
      eval context steps (.node .call name children) frame world = .ok value after →
        ∃ below function exprs arguments found before,
          evalCallee (eval context below) frame name children world =
            .ok (.function function, exprs) found ∧
          evalAll (eval context below) frame exprs found = .ok arguments before ∧
          Evaluation.call context (eval context below) function arguments before =
            .ok value after ∧
          function.Honours arguments value) ∧
    (∀ (interpreter : Interpreter) (host : Host) (function : Function) (arguments : List Value)
      (value : Value), (interpreter.call host function arguments).1 = .ok value →
        function.Honours arguments value) ∧
    (∀ (context : Context) (steps : Nat) (closure : Closure) (arguments : List Value)
      (world : World),
      (∃ stop after, Evaluation.call context (eval context steps) (.closure closure) arguments
        world = .error stop after ∧ after.heap = world.heap) ∨
      ∃ opened, Opens context steps closure arguments world opened) ∧
    (∀ (context : Context) (frame level : Nat) (start later : World) (since : List Entry),
      Course context start level since later → Lives frame start later) ∧
    (∀ (context : Context) (frame steps : Nat) (expr : Expr) (place : Nat) (world : World),
      Lives frame world ((eval context steps expr place).after world)) ∧
    (∀ (interpreter : Interpreter) (frame : Nat) (requests : List Request),
      (∀ request ∈ requests, request ≠ .clear frame) →
        Lives frame interpreter.world (requests.foldl serve interpreter).world) := by
  -- Each part is a law of its own; what is left is to find the call in what was asked for.
  refine ⟨?_, ?_, ?_, call_closure, ?_, ?_, ?_⟩
  · intro context self function arguments world after value called
    exact honours_of_call called
  · -- A node that is evaluated to a value has looked up its function and evaluated its arguments.
    intro context steps frame name children world after value evaluated
    obtain ⟨below, function, exprs, arguments, found, before, looked, given, called⟩ :=
      exists_call_of_eval evaluated
    exact ⟨below, function, exprs, arguments, found, before, looked, given, called,
      honours_of_call called⟩
  · -- The host's call is the same call.
    intro interpreter host function arguments value yielded
    obtain ⟨after, called⟩ := exists_call_of_host yielded
    exact honours_of_call called
  · intro context frame level start later since course
    exact .of_course course
  · intro context frame steps expr place world
    exact .eval steps expr place world
  · intro interpreter frame requests kept
    exact interpreter.lives_serve_all kept

/-- A function with two parameters of one name, whose body defines a function of that name. -/
def rebinding : Closure where
  id := 0
  name := none
  params := [(⟨"X"⟩, .real), (⟨"X"⟩, .integer)]
  returnType := some .function
  body := .plain .sequence [.node .define (some ⟨"X"⟩) [.plain .sequence [.symbol ⟨"X"⟩]]]
  frame := root

/-- Its name stays bound to the first argument, in the body and after what is asked for later. -/
theorem honours_call_rebinding :
    let host : Host := fun _ _ => ⟨.ok .emptyList, false⟩
    let interpreter := start { intrinsics := false } '.' []
    let context := interpreter.context host
    let world := interpreter.world
    let called := interpreter.call host (.closure rebinding) [.integer 1, .integer 2]
    let later := [.bind 1 ⟨"X"⟩ (.integer 4), .clear root].foldl serve called.2
    (∃ value, called.1 = .ok value ∧
      (Function.closure rebinding).Honours [.integer 1, .integer 2] value) ∧
    (∃ value after function arguments,
      eval context 9 constantCall root world = .ok value after ∧
      Function.Honours function arguments value) ∧
    Lives 1 world (world.note .polled) ∧
    rebinding.BoundIn [.integer 1, .integer 2] later.world.heap 1 := by
  intro host interpreter context world called later
  -- The general law is asked for a call by the host, for one by a node, and for a later history.
  obtain ⟨-, fromNode, fromHost, opens, course, -, requests⟩ := honours_call
  obtain ⟨value, yielded⟩ : ∃ value, called.1 = .ok value := ⟨_, rfl⟩
  obtain ⟨after, result⟩ := exists_call_of_host yielded
  refine ⟨⟨value, yielded, fromHost interpreter host _ _ value yielded⟩, ?_, ?_, ?_⟩
  · obtain ⟨value, after, evaluated⟩ : ∃ value after,
        eval context 9 constantCall root world = .ok value after := ⟨_, _, rfl⟩
    obtain ⟨_, function, _, arguments, _, _, _, _, -, honours⟩ :=
      fromNode context 9 root none _ world after value evaluated
    exact ⟨value, after, function, arguments, evaluated, honours⟩
  · exact course context 1 0 world _ _ (.step .start (.polled rfl))
  · rcases opens context steps rebinding [.integer 1, .integer 2] world with
      ⟨stop, _, failed, -⟩ | ⟨opened, opened_spec⟩
    · rw [result] at failed
      cases failed
    · -- From the body to the end of the call, and then through both requests.
      have same : called.2.world = (Evaluation.call context (eval context steps)
          (.closure rebinding) [.integer 1, .integer 2]).after world := by
        simp only [called, Interpreter.call, perform_eq]
        rfl
      have ended : Lives 1 opened called.2.world := by
        rw [same]
        exact opened_spec.alive
      have served : Lives 1 called.2.world later.world := by
        refine requests called.2 1 _ fun request member => ?_
        rcases List.mem_pair.mp member with rfl | rfl
        · simp
        · simp [root]
      exact opened_spec.bound _ (ended.trans served)

end Interpreter

end Scriptlet

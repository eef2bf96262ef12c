import Scriptlet.Interpreter
import Scriptlet.Proofs.Machine.Fulfilment
import Scriptlet.Proofs.Machine.Growth

/-!
The course of a run: what evaluation does to the world, one thing after the other.

A step goes on, and a fault is where a run fails; both tell what they write down.
Main statement: every run is a row of steps, which a fault may end, and then the calls under way
are left. What steps and faults keep is kept by every run.
-/

namespace Scriptlet

open Evaluation

namespace World

/-- What a world would write down of something that happens in it. -/
def entry (world : World) (happening : Happening) : Entry :=
  ⟨happening, world.depth, world.interrupted⟩

/-- What a world writes down of a function that is entered, which counts as under way. -/
def entering (world : World) (function : Function) (arguments : List Value) : Entry :=
  ⟨.entered function arguments, world.depth + 1, world.interrupted⟩

/-- What a world writes down of a call that is left, which no longer counts as under way. -/
def leaving (world : World) : Entry :=
  ⟨.left, world.depth - 1, world.interrupted⟩

end World

/--
What evaluation does in one go, and what it writes down of it.

It goes from a world in which so many calls are under way to the next one.
-/
inductive Step (context : Context) : Nat → World → List Entry → Nat → World → Prop where
  /-- It is asked whether to stop, and it is not. -/
  | polled {level world} (clear : world.interrupted = false) :
      Step context level world [world.entry .polled] level (world.note .polled)
  /-- The condition of a loop is tested. -/
  | tested {level world} (clear : world.interrupted = false) :
      Step context level world [world.entry .tested] level (world.note .tested)
  /-- A name is bound that the frame does not bind yet. -/
  | bound {level world frame name} (value : Value) (free : world.heap.binds frame name = false) :
      Step context level world [world.entry (.bound frame name)] level
        (world.bind frame name value)
  /-- A function is defined. -/
  | defined {level world} :
      Step context level world [] level { world with definitions := world.definitions + 1 }
  /-- A frame is made. -/
  | extended {level world} (parent : Nat) :
      Step context level world [] level { world with heap := world.heap.extend parent }
  /-- A function that is not the host's is entered. -/
  | entered {level world function} (arguments : List Value)
      (own : ∀ host, function ≠ .host host) (clear : world.interrupted = false)
      (room : context.full? world = none) :
      Step context level world [world.entering function arguments] (level + 1)
        (world.enter function arguments)
  /-- A function of the host is entered, and answers. -/
  | answered {level world function arguments value} (clear : world.interrupted = false)
      (room : context.full? world = none)
      (answer : (context.host world.hostCalls ⟨function, arguments⟩).result = .ok value) :
      Step context level world [world.entering (.host function) arguments] (level + 1)
        ((world.enter (.host function) arguments).heed
          (context.host world.hostCalls ⟨function, arguments⟩))
  /-- A call is left. -/
  | left {level world} :
      Step context (level + 1) world [world.leaving] level (afterCall world)

/-- Where a run fails, and what it writes down of it. -/
inductive Fault (context : Context) :
    Nat → World → List Entry → Nat → EvalError → World → Prop where
  /-- Something fails that has to do with neither the wish to stop nor the limit of calls. -/
  | raised {level world error} (calm : error ≠ .interrupted)
      (roomy : ∀ limit, error ≠ .tooDeep limit) :
      Fault context level world [world.entry (.raised error)] level error
        (world.note (.raised error))
  /-- It is asked whether to stop, and it is. -/
  | interrupted {level world} (asked : world.interrupted = true) :
      Fault context level world [world.entry (.raised .interrupted), world.entry .polled] level
        .interrupted ((world.note .polled).note (.raised .interrupted))
  /-- A call is not to stop, and finds no room. -/
  | tooDeep {level world limit} (clear : world.interrupted = false)
      (full : context.full? world = some limit) :
      Fault context level world [world.entry (.raised (.tooDeep limit)), world.entry .polled] level
        (.tooDeep limit) ((world.note .polled).note (.raised (.tooDeep limit)))
  /-- A function of the host is entered, and fails. -/
  | refused {level world function arguments error} (clear : world.interrupted = false)
      (room : context.full? world = none)
      (answer : (context.host world.hostCalls ⟨function, arguments⟩).result = .error error) :
      Fault context level world
        [((world.enter (.host function) arguments).heed
            (context.host world.hostCalls ⟨function, arguments⟩)).entry (.hostRaised error),
          world.entering (.host function) arguments] (level + 1) error
        (((world.enter (.host function) arguments).heed
          (context.host world.hostCalls ⟨function, arguments⟩)).note (.hostRaised error))

/-- What a run has done since its start, with so many calls under way, and all it has written. -/
inductive Course (context : Context) (start : World) : Nat → List Entry → World → Prop where
  /-- It has done nothing yet. -/
  | start : Course context start 0 [] start
  /-- It has done one thing more. -/
  | step {level level' since written world world'} (course : Course context start level since world)
      (step : Step context level world written level' world') :
      Course context start level' (written ++ since) world'

/-- How a run stops that yields nothing, with so many calls still to be left. -/
inductive Ended (context : Context) (start : World) : Nat → List Entry → Stop → World → Prop where
  /-- It runs out of steps. -/
  | exhausted {level since world} (course : Course context start level since world) :
      Ended context start level since .exhausted world
  /-- It fails. -/
  | failed {level level' since written world world' error}
      (course : Course context start level since world)
      (fault : Fault context level world written level' error world') :
      Ended context start level' (written ++ since) (.failed error) world'
  /-- It leaves a call that was under way. -/
  | left {level since stop world} (ended : Ended context start (level + 1) since stop world) :
      Ended context start level (world.leaving :: since) stop (afterCall world)

/-- Whether a run comes to an outcome and to a world, and has written so much since its start. -/
def Ran {α : Type} (context : Context) (start : World) (outcome : Except Stop α)
    (since : List Entry) (final : World) : Prop :=
  match outcome with
  | .ok _ => Course context start 0 since final
  | .error stop => Ended context start 0 since stop final

variable {context : Context} {start : World}

/-- A plain failure has to do with neither the wish to stop nor the limit of calls. -/
theorem Fault.of_plain {level : Nat} {world : World} {error : EvalError} (plain : error.Plain) :
    Fault context level world [world.entry (.raised error)] level error
      (world.note (.raised error)) := by
  -- Neither of the two is plain.
  refine .raised ?_ fun limit => ?_
  · rintro rfl
    exact plain
  · rintro rfl
    exact plain

/-- What a step writes down comes on top of what has been written before. -/
theorem Step.journal_eq {level level' : Nat} {world world' : World} {written : List Entry}
    (step : Step context level world written level' world') :
    world'.journal = written ++ world.journal := by
  cases step with
  | bound value free =>
    -- The frame does not bind the name yet, so that the binding is written down.
    rw [World.bind_of_free value free]
    rfl
  | _ => rfl

/-- What a fault writes down comes on top of what has been written before. -/
theorem Fault.journal_eq {level level' : Nat} {world world' : World} {written : List Entry}
    {error : EvalError} (fault : Fault context level world written level' error world') :
    world'.journal = written ++ world.journal := by
  -- What a fault writes down is all that it adds.
  cases fault <;> rfl

section Keeping

variable (holds : Nat → List Entry → World → Prop) {level : Nat} {since : List Entry}
  {final : World}
  (initially : holds 0 [] start)
  (steps : ∀ {level level' since written world world'}, holds level since world →
    Step context level world written level' world' → holds level' (written ++ since) world')
  (faults : ∀ {level level' since written world world' error}, holds level since world →
    Fault context level world written level' error world' →
      holds level' (written ++ since) world')

include initially steps

/-- What holds at the start and is kept by every step holds all along. -/
theorem Course.keeps (course : Course context start level since final) :
    holds level since final := by
  -- By induction on the steps that have been taken.
  induction course with
  | start => exact initially
  | step course step ih => exact steps ih step

include faults

/-- What holds at the start and is kept by every step and every fault holds at the end. -/
theorem Ended.keeps {stop : Stop} (ended : Ended context start level since stop final) :
    holds level since final := by
  -- The run has taken its course, has failed at the end of it, or is leaving its calls.
  induction ended with
  | exhausted course => exact course.keeps holds initially steps
  | failed course fault => exact faults (course.keeps holds initially steps) fault
  -- To leave a call after a failure is the same as to leave it with a result.
  | left ended ih => exact steps ih .left

/-- What holds at the start and is kept by every step and every fault holds after a run. -/
theorem Ran.keeps {α : Type} {outcome : Except Stop α}
    (ran : Ran context start outcome since final) : holds 0 since final := by
  -- A run that yields something is a course, and one that stops has ended.
  cases outcome with
  | ok found => exact Course.keeps holds initially steps ran
  | error stop => exact Ended.keeps holds initially steps faults ran

end Keeping

/-- Whether a law holds of each entry that has been written, given those written before it. -/
def Kept (law : Entry → List Entry → Prop) (since : List Entry) : Prop :=
  ∀ entry older, entry :: older <:+ since → law entry older

section Kept

variable {law : Entry → List Entry → Prop} {entry : Entry} {older : List Entry}

/-- There is nothing of which a law would have to hold. -/
@[simp] theorem kept_nil : Kept law [] := by
  simp [Kept]

/-- A law holds of all entries exactly if it holds of the last one and of those before it. -/
@[simp] theorem kept_cons : Kept law (entry :: older) ↔ law entry older ∧ Kept law older := by
  -- Of a longer journal, the last entry stands before all others, or is one of those before it.
  simp only [Kept, List.suffix_cons_iff, List.cons.injEq]
  constructor
  · exact fun kept => ⟨kept entry older (.inl ⟨rfl, rfl⟩), fun other before rest =>
      kept other before (.inr rest)⟩
  · rintro ⟨first, rest⟩ other before (⟨rfl, rfl⟩ | inner)
    · exact first
    · exact rest other before inner

end Kept

/-- What a host answers to a call that comes after all that a journal tells. -/
def Host.reply (host : Host) (journal : List Entry) (call : HostCall) : HostReply :=
  host (journal.filterMap World.hostCall?) call

/-- A course writes on top of what was written before it. -/
theorem Course.journal_eq {level : Nat} {since : List Entry} {world : World}
    (course : Course context start level since world) :
    world.journal = since ++ start.journal := by
  -- Each step adds to what has been written, so that it holds all along.
  refine course.keeps (fun _ since world => world.journal = since ++ start.journal) rfl
    fun held step => ?_
  rw [step.journal_eq, held, List.append_assoc]

/-- What a host goes by when it is called next is what the journal tells of. -/
theorem Course.reply_eq {level : Nat} {since : List Entry} {world : World}
    (course : Course context start level since world) (host : Host) (call : HostCall) :
    host.reply (since ++ start.journal) call = host world.hostCalls call := by
  -- The journal of the world is what the host's answers hang on.
  rw [← course.journal_eq]
  rfl

/-- A run writes on top of what was written before it. -/
theorem Ran.journal_eq {α : Type} {outcome : Except Stop α} {since : List Entry} {final : World}
    (ran : Ran context start outcome since final) : final.journal = since ++ start.journal := by
  -- Steps and faults add to what has been written.
  refine ran.keeps (fun _ since world => world.journal = since ++ start.journal) rfl
    (fun held step => ?_) fun held fault => ?_
  · rw [step.journal_eq, held, List.append_assoc]
  · rw [fault.journal_eq, held, List.append_assoc]

/-- That there is a course is all that is asked of evaluation, wherever and whatever it is. -/
def coursing (context : Context) (start : World) : Conditions where
  running level world := ∃ since, Course context start level since world
  stopped level stop world := ∃ since, Ended context start level since stop world
  admits _ _ := True
  writes _ _ := True
  fit _ := True

/-- Each single thing that evaluation does is a step of the course, or a fault that ends it. -/
theorem coursing_contract (context : Context) (start : World) :
    Contract (coursing context start) context := by
  -- Whatever has to do with shapes is one kind of failure among others here.
  have misshapen {level : Nat} {world : World} {error : ShapeError}
      (held : (coursing context start).running level world) :
      (coursing context start).stopped level (.failed (.badShape error))
        (world.note (.raised (.badShape error))) := by
    obtain ⟨since, course⟩ := held
    exact ⟨_, .failed course (.raised (by simp) (by simp))⟩
  exact {
    part := fun _ _ _ => trivial
    arm := fun _ _ _ => trivial
    target := fun _ => trivial
    callee := fun _ => trivial
    named := fun _ => trivial
    failed := fun plain ⟨since, course⟩ => ⟨_, .failed course (.of_plain plain)⟩
    misshapen := fun _ _ held => misshapen held
    strayPair := fun _ held => misshapen held
    unknownType := fun _ _ _ _ held => misshapen held
    interrupted := fun ⟨since, course⟩ asked => ⟨_, .failed course (.interrupted asked)⟩
    polled := fun ⟨since, course⟩ clear => ⟨_, .step course (.polled clear)⟩
    tested := fun ⟨since, course⟩ clear => ⟨_, .step course (.tested clear)⟩
    tooDeep := fun ⟨since, course⟩ clear full => ⟨_, .failed course (.tooDeep clear full)⟩
    exhausted := fun ⟨since, course⟩ => ⟨_, .exhausted course⟩
    lookup := fun _ _ _ _ _ => trivial
    bind := fun {level world name frame value} _ _ ⟨since, course⟩ => by
      cases taken : world.heap.binds frame name with
      | true =>
        -- A name that is bound already is left as it is, which is no step at all.
        rw [World.bind, if_pos taken]
        exact ⟨since, course⟩
      | false => exact ⟨_, .step course (.bound value taken)⟩
    define := fun _ _ _ _ _ => trivial
    counted := fun ⟨since, course⟩ => ⟨_, .step course .defined⟩
    enter := fun own _ _ ⟨since, course⟩ clear room =>
      ⟨_, .step course (.entered _ own clear room)⟩
    answered := fun _ ⟨since, course⟩ clear room answer =>
      ⟨fun _ _ => trivial, _, .step course (.answered clear room answer)⟩
    refused := fun _ ⟨since, course⟩ clear room answer =>
      ⟨_, .failed course (.refused clear room answer)⟩
    leave := fun ⟨since, course⟩ => ⟨_, .step course .left⟩
    abandon := fun ⟨since, ended⟩ => ⟨_, .left ended⟩
    extend := fun _ ⟨since, course⟩ => ⟨_, .step course (.extended _)⟩
    inside := fun _ _ => ⟨trivial, fun _ _ => trivial⟩ }

/-- An evaluation of which a course is asked takes one. -/
theorem exists_ran_of_meets {α : Type} {yields : α → Prop} {evaluation : Evaluation α}
    (meets : (coursing context start).Meets 0 yields evaluation) :
    ∃ since, Ran context start (evaluation.outcome start) since (evaluation.after start) := by
  -- At the start nothing has been done.
  have ended := meets start ⟨[], .start⟩
  unfold outcome after
  cases run : evaluation start with
  | ok found world =>
    rw [run] at ended
    exact ended.2
  | error stop world =>
    rw [run] at ended
    exact ended

namespace Interpreter

/-- Every evaluation of an expression in a frame takes its course. -/
theorem exists_ran_evalIn (interpreter : Interpreter) (host : Host) (expr : Expr) (frame : Nat) :
    ∃ since, Ran (interpreter.context host) interpreter.world (interpreter.evalIn host expr frame).1
      since (interpreter.evalIn host expr frame).2.world := by
  -- All that is asked for is that there is a course.
  have contract := coursing_contract (interpreter.context host) interpreter.world
  rw [evalIn, perform_eq]
  have admitted : (coursing (interpreter.context host) interpreter.world).admits expr frame :=
    trivial
  -- The check of the shape comes first, and fails like anything else.
  exact exists_ran_of_meets ((contract.ofShape admitted fun valid => ⟨(), valid⟩).bind
    fun _ _ => contract.eval_meets steps 0 expr frame admitted)

/-- Every call takes its course. -/
theorem exists_ran_call (interpreter : Interpreter) (host : Host) (function : Function)
    (arguments : List Value) :
    ∃ since, Ran (interpreter.context host) interpreter.world
      (interpreter.call host function arguments).1 since
      (interpreter.call host function arguments).2.world := by
  have contract := coursing_contract (interpreter.context host) interpreter.world
  rw [Interpreter.call, perform_eq]
  exact exists_ran_of_meets (contract.call_meets (contract.eval_meets steps)
    (fun _ _ => trivial) fun _ _ => trivial)

/-- What is true of all runs is true of every evaluation and of every call. -/
theorem exists_of_ran
    (holds : Host → World → Except Stop Value → List Entry → World → Prop)
    (of_ran : ∀ {context start outcome since final}, Ran context start outcome since final →
      holds context.host start outcome since final) :
    (∀ (interpreter : Interpreter) (host : Host) (expr : Expr) (frame : Nat), ∃ since,
      holds host interpreter.world (interpreter.evalIn host expr frame).1 since
        (interpreter.evalIn host expr frame).2.world) ∧
    (∀ (interpreter : Interpreter) (host : Host) (expr : Expr), ∃ since,
      holds host interpreter.world (interpreter.evaluate host expr).1 since
        (interpreter.evaluate host expr).2.world) ∧
    (∀ (interpreter : Interpreter) (host : Host) (function : Function) (arguments : List Value),
      ∃ since, holds host interpreter.world (interpreter.call host function arguments).1 since
        (interpreter.call host function arguments).2.world) := by
  -- The three ways to evaluate take their courses alike.
  refine ⟨?_, ?_, ?_⟩
  · intro interpreter host expr frame
    obtain ⟨since, ran⟩ := interpreter.exists_ran_evalIn host expr frame
    exact ⟨since, of_ran ran⟩
  · intro interpreter host expr
    obtain ⟨since, ran⟩ := interpreter.exists_ran_evalIn host expr root
    exact ⟨since, of_ran ran⟩
  · intro interpreter host function arguments
    obtain ⟨since, ran⟩ := interpreter.exists_ran_call host function arguments
    exact ⟨since, of_ran ran⟩

end Interpreter

end Scriptlet

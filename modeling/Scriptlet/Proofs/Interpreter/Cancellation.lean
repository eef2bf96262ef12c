import Scriptlet.Proofs.Interpreter.Service
import Scriptlet.Proofs.Machine.Straight
import Scriptlet.Proofs.Machine.Wish

/-!
What becomes of an interpreter that is asked to stop.

Main statement: a run heeds the wish wherever it was uttered, and so do all that come after it. One
that comes to no call and no loop goes as if it had not been asked.
-/

namespace Scriptlet

open Evaluation

/-- A world as if nobody had ever asked the run to stop. -/
def World.unasked (world : World) : World :=
  { world with
    interrupted := false
    journal := world.journal.map fun entry => { entry with interrupted := false } }

/-- The host has been called alike whether or not somebody has asked the run to stop. -/
theorem World.hostCalls_unasked (world : World) : world.unasked.hostCalls = world.hostCalls := by
  -- The host calls are read off the journal, and what is taken out of its entries is not read.
  rw [hostCalls, unasked, List.filterMap_map]
  rfl

/-- A name is bound alike whether or not somebody has asked the run to stop. -/
theorem World.unasked_bind (world : World) (frame : Nat) (name : Name) (value : Value) :
    (world.bind frame name value).unasked = world.unasked.bind frame name value := by
  -- A name that is bound already stays as it is, and any other one is bound and noted.
  by_cases bound : world.heap.binds frame name = true
  · have bound' : world.unasked.heap.binds frame name = true := bound
    rw [bind, bind, if_pos bound, if_pos bound']
  · have free' : ¬world.unasked.heap.binds frame name = true := bound
    rw [bind, bind, if_neg bound, if_neg free']
    rfl

/-- Two runs of the same, of which the one on the left is to stop where it is asked. -/
def Parallel.heedless (context : Context) : Parallel context context where
  excused stop := stop = .failed .interrupted
  worlds _ world world' := world.interrupted = true ∧ world.unasked = world'.unasked
  toPermission := .all
  tolerance_eq := (congrArg (·.settings.tolerance) (id_eq context) :)
  places_eq := (congrArg (·.settings.places) (id_eq context) :)
  host_eq := (congrArg Context.host (id_eq context) :)
  heap_eq both := (congrArg World.heap both.2 :)
  definitions_eq both := (congrArg World.definitions both.2 :)
  hostCalls_eq both := by
    rw [← World.hostCalls_unasked, both.2, World.hostCalls_unasked]
  stops both := .inr ⟨both.1, rfl⟩
  room both := .inl (Context.full?_congr rfl (congrArg World.depth both.2 :))
  noted happening both := ⟨both.1, congrArg (·.note happening) both.2⟩
  asked both := ⟨rfl, both.2⟩
  bind _ both := by
    rw [World.interrupted_bind, World.unasked_bind, World.unasked_bind, both.2]
    exact ⟨both.1, rfl⟩
  counted both :=
    ⟨both.1, congrArg (fun world : World => { world with definitions := world.definitions + 1 })
      both.2⟩
  deeper both :=
    ⟨both.1, congrArg (fun world : World => { world with depth := world.depth + 1 }) both.2⟩
  leave both := ⟨both.1, congrArg afterCall both.2⟩
  extend {_ _ _ parent} both :=
    ⟨both.1, congrArg (fun world : World => { world with heap := world.heap.extend parent }) both.2⟩
  inside _ := trivial
  fresh _ := trivial

/-- Whether a world is to stop, and nothing has begun in it since another one. -/
structure World.Rested (before after : World) : Prop where
  /-- It is to stop. -/
  interrupted_eq : after.interrupted = true
  /-- Nothing has begun. -/
  rested : ∃ since, after.journal = since ++ before.journal ∧ ∀ entry ∈ since, entry.begins = false

/-- What is at rest from one world to a second, and from there to a third, is at rest all along. -/
theorem World.Rested.trans {before between after : World} (first : before.Rested between)
    (second : between.Rested after) : before.Rested after where
  interrupted_eq := second.interrupted_eq
  rested := by
    -- What was written first is below what was written then.
    obtain ⟨earlier, written, quiet⟩ := first.rested
    obtain ⟨later, written', quiet'⟩ := second.rested
    refine ⟨later ++ earlier, ?_, fun entry member => ?_⟩
    · rw [written', written, List.append_assoc]
    · exact (List.mem_append.mp member).elim (quiet' entry) (quiet entry)

/-- Nothing begins in an interpreter that is to stop, unless it is told to go on. -/
theorem Service.rested {interpreter : Interpreter} {request : Request} {world : World}
    (service : Service interpreter request world) (asked : interpreter.world.interrupted = true)
    (held : request ≠ .setInterrupted false) : interpreter.world.Rested world := by
  -- Of all services, only to be told to go on could change the wish.
  cases service with
  | idle | framed heap => exact ⟨asked, [], rfl, by simp⟩
  | ran ran =>
    obtain ⟨still, quiet⟩ := (Minds.of_ran ran).of_interrupted asked
    exact ⟨still, _, ran.journal_eq, quiet⟩
  | bound frame name value =>
    refine ⟨(World.interrupted_bind ..).trans asked, ?_⟩
    unfold World.bind
    split
    · exact ⟨[], rfl, by simp⟩
    · exact ⟨[_], rfl, by simp [Entry.begins]⟩
  | asked interrupted =>
    cases interrupted with
    | true => exact ⟨rfl, [], rfl, by simp⟩
    | false => exact absurd rfl held

namespace Interpreter

/-- Nothing begins in an interpreter that is to stop, whatever it is asked but to go on. -/
theorem rested_after {interpreter : Interpreter} {requests : List Request}
    (asked : interpreter.world.interrupted = true) (held : .setInterrupted false ∉ requests) :
    interpreter.world.Rested (requests.foldl serve interpreter).world := by
  -- By induction on the requests.
  induction requests generalizing interpreter with
  | nil => exact ⟨asked, [], rfl, by simp⟩
  | cons request rest ih =>
    rw [List.mem_cons, not_or] at held
    have served := (interpreter.service request).rested asked (Ne.symm held.1)
    exact served.trans (ih served.interrupted_eq held.2)

/-- An evaluation that is to stop goes as if it were not, or it stops for that. -/
theorem heedless_evalIn {interpreter : Interpreter} (asked : interpreter.world.interrupted = true)
    (host : Host) (expr : Expr) (frame : Nat) :
    (interpreter.evalIn host expr frame).1 = .error (.failed .interrupted) ∨
      (((interpreter.setInterrupted false).evalIn host expr frame).1 =
          (interpreter.evalIn host expr frame).1 ∧
        ((interpreter.setInterrupted false).evalIn host expr frame).2.world.unasked =
          (interpreter.evalIn host expr frame).2.world.unasked) := by
  -- Both runs go on in parallel, unless the one that is to stop has stopped for that.
  rw [evalIn, evalIn, perform_eq, perform_eq]
  rcases (Parallel.heedless (interpreter.context host)).ends
    ((Parallel.heedless (interpreter.context host)).checked_keeps 0 steps trivial)
    (⟨asked, rfl⟩ : (Parallel.heedless _).worlds 0 interpreter.world
      (interpreter.setInterrupted false).world) with ⟨stop, stopped, rfl⟩ | ⟨same, -, worlds⟩
  · exact .inl stopped
  · exact .inr ⟨same.symm, worlds.symm⟩

/-- How an evaluation goes that is to stop: it stops where it asks, or goes as if it were not to. -/
structure Halts (interpreter : Interpreter) (host : Host) (expr : Expr) (frame : Nat)
    (since : List Entry) : Prop where
  /-- It writes on top of what was written before. -/
  journal_eq : (interpreter.evalIn host expr frame).2.world.journal =
    since ++ interpreter.world.journal
  /-- It asks exactly if it stops for that. -/
  polled_iff : (∃ entry ∈ since, entry.happening = .polled) ↔
    (interpreter.evalIn host expr frame).1 = .error (.failed .interrupted)
  /-- If it comes to no call and to no loop, it does not ask. -/
  silent : (interpreter.straightIn host expr frame).1 ≠ .error .exhausted →
    ∀ entry ∈ since, entry.happening ≠ .polled
  /-- If it does not ask, it comes to the same as if it were not to stop. -/
  same : (∀ entry ∈ since, entry.happening ≠ .polled) →
    ((interpreter.setInterrupted false).evalIn host expr frame).1 =
        (interpreter.evalIn host expr frame).1 ∧
      ((interpreter.setInterrupted false).evalIn host expr frame).2.world.unasked =
        (interpreter.evalIn host expr frame).2.world.unasked

/-- An evaluation that is to stop from its start goes so. -/
theorem exists_halts {interpreter : Interpreter} (asked : interpreter.world.interrupted = true)
    (host : Host) (expr : Expr) (frame : Nat) :
    ∃ since, interpreter.Halts host expr frame since := by
  -- What the evaluation has written tells whether it has polled.
  obtain ⟨since, ran⟩ := interpreter.exists_ran_evalIn host expr frame
  have polled_iff := ran.polled_iff asked
  refine ⟨since, ran.journal_eq, polled_iff, ?_, ?_⟩
  · intro straight entry member polled
    -- It comes to nothing that asks, so that it does not stop for the wish.
    have stopped := polled_iff.mp ⟨entry, member, polled⟩
    rw [evalIn_eq_straightIn straight] at stopped
    exact straightIn_ne_interrupted stopped
  · intro silent
    -- It has not asked, so that it has not stopped for that.
    refine (heedless_evalIn asked host expr frame).resolve_left fun stopped => ?_
    obtain ⟨entry, member, polled⟩ := polled_iff.mpr stopped
    exact silent entry member polled

/--
A run heeds the wish to stop, whoever utters it and whenever, and so do all that come after it.

In every run each entry knows whether the run is to stop, which it is if it was at its start or if
the host has asked it to since; nothing begins in a run that is to stop, and it stops for that only
where it has just asked. Nothing begins in an interpreter that is to stop, however often it is asked
for something, until it is told to go on. An evaluation in it that comes to a call or to a loop
asks, and stops there; one that comes to neither does not ask, and is the same as if it were to go
on.
-/
theorem heeded_evaluation :
    (∀ (interpreter : Interpreter) (host : Host) (expr : Expr) (frame : Nat), ∃ since,
      Minds host interpreter.world since (interpreter.evalIn host expr frame).2.world) ∧
    (∀ (interpreter : Interpreter) (host : Host) (expr : Expr), ∃ since,
      Minds host interpreter.world since (interpreter.evaluate host expr).2.world) ∧
    (∀ (interpreter : Interpreter) (host : Host) (function : Function) (arguments : List Value),
      ∃ since, Minds host interpreter.world since
        (interpreter.call host function arguments).2.world) ∧
    (∀ (interpreter : Interpreter) (requests : List Request),
      interpreter.world.interrupted = true → .setInterrupted false ∉ requests →
        interpreter.world.Rested (requests.foldl serve interpreter).world) ∧
    (∀ (interpreter : Interpreter) (host : Host) (expr : Expr) (frame : Nat),
      interpreter.world.interrupted = true → ∃ since, interpreter.Halts host expr frame since) ∧
    (∀ (context : Context) (self : Evaluator) (function : Function) (arguments : List Value)
      (world : World), world.interrupted = true →
        Evaluation.call context self function arguments world =
          .error (.failed .interrupted) ((world.note .polled).note (.raised .interrupted))) ∧
    (∀ (self : Evaluator) (frame : Nat) (condition body : Expr) (rounds : Nat) (world : World),
      world.interrupted = true →
        evalRounds self frame condition body (rounds + 1) world =
          .error (.failed .interrupted) ((world.note .polled).note (.raised .interrupted))) := by
  -- The parts are lemmas of their own, and the last two can be read off the definitions.
  obtain ⟨evaluated, evaluated', called⟩ :=
    exists_of_ran (fun host start _ => Minds host start) Minds.of_ran
  refine ⟨evaluated, evaluated', called, ?_, ?_, ?_, ?_⟩
  · intro interpreter requests asked held
    exact rested_after asked held
  · intro interpreter host expr frame asked
    exact exists_halts asked host expr frame
  · intro context self function arguments world asked
    rw [call_apply, if_pos asked]
    rfl
  · intro self frame condition body rounds world asked
    -- A round starts by asking whether to stop, before the condition is looked at.
    change EStateM.bind poll _ world = _
    rw [EStateM.bind, poll_apply, if_pos asked]
    rfl

/-- An interpreter that the host has asked to stop, in the first call of a function of its own. -/
def halted : Interpreter :=
  ((start { intrinsics := false } '.' []).call (fun _ _ => ⟨.ok .emptyList, true⟩)
    (.host ⟨0, ⟨"HALT"⟩, [], none⟩) []).2

/-- A call does not begin any more then, nor does a loop; a constant still has its value. -/
theorem heeded_halted :
    let host : Host := fun _ _ => ⟨.ok .emptyList, false⟩
    let one := Expr.constant (.integer 1)
    let stop := ((halted.world.note .polled).note (.raised .interrupted))
    halted.world.interrupted = true ∧
      halted.world.Rested
        ([.evaluate host constantCall, .evaluate host one].foldl serve halted).world ∧
      (halted.evalIn host constantCall root).1 = .error (.failed .interrupted) ∧
      (halted.evalIn host one root).1 = .ok (.integer 1) ∧
      ((halted.setInterrupted false).evalIn host one root).1 = (halted.evalIn host one root).1 ∧
      Evaluation.call (halted.context host) (eval (halted.context host) steps)
        (.builtin .squareRoot) [.real 4.0] halted.world = .error (.failed .interrupted) stop ∧
      evalRounds (eval (halted.context host) steps) root one one 1 halted.world =
        .error (.failed .interrupted) stop := by
  intro host one stop
  -- The host has asked the interpreter to stop, which is the state that all parts start from.
  have asked : halted.world.interrupted = true := rfl
  obtain ⟨-, -, -, rests, alike, calls, rounds⟩ := heeded_evaluation
  obtain ⟨since, halts⟩ := alike halted host one root asked
  -- A constant comes to no call and to no loop.
  have straight : (halted.straightIn host one root).1 = .ok (.integer 1) := rfl
  have unasked := halts.same (halts.silent (by simp [straight]))
  exact ⟨asked, rests halted _ asked (by simp), rfl, rfl, unasked.1, calls _ _ _ _ _ asked,
    rounds _ _ _ _ _ _ asked⟩

end Interpreter

end Scriptlet

import Scriptlet.Proofs.Interpreter.History
import Scriptlet.Proofs.Machine.Course

/-!
What each request does to the world of an interpreter.

Main statement: a request takes a run through its course, or it changes the world from outside in
one of a few ways.
-/

namespace Scriptlet

/-- How a request may leave the world of an interpreter. -/
inductive Service (interpreter : Interpreter) : Request → World → Prop where
  /-- As it was. -/
  | idle {request} : Service interpreter request interpreter.world
  /-- As a run has left it. -/
  | ran {request host since final} {outcome : Except Stop Value}
      (ran : Ran (interpreter.context host) interpreter.world outcome since final) :
      Service interpreter request final
  /-- With a name bound in a frame. -/
  | bound {request} (frame : Nat) (name : Name) (value : Value) :
      Service interpreter request (interpreter.world.bind frame name value)
  /-- With other frames. -/
  | framed {request} (heap : Heap) : Service interpreter request { interpreter.world with heap }
  /-- With another wish to stop or to go on. -/
  | asked (interrupted : Bool) :
      Service interpreter (.setInterrupted interrupted) { interpreter.world with interrupted }

namespace Interpreter

variable (interpreter : Interpreter)

/-- An evaluation in any frame serves any request that asks for it. -/
theorem service_evalIn (request : Request) (host : Host) (expr : Expr) (frame : Nat) :
    Service interpreter request (interpreter.evalIn host expr frame).2.world := by
  -- The evaluation takes some course, and leaves the world at the end of it.
  obtain ⟨since, ran⟩ := interpreter.exists_ran_evalIn host expr frame
  exact .ran ran

/-- To ask for a value that may have been kept is to evaluate, or to leave the world as it is. -/
theorem world_evaluateCached (host : Host) (expr : Expr) :
    (interpreter.evaluateCached host expr).2.world = interpreter.world ∨
      (interpreter.evaluateCached host expr).2.world =
        (interpreter.evaluate host expr).2.world := by
  unfold evaluateCached
  split
  -- A value that is known is given without a run.
  · exact .inl rfl
  · refine .inr ?_
    split
    case h_1 value after ended =>
      rw [ended]
      -- The value may be kept, which has nothing to do with the world.
      unfold remember
      split <;> rfl
    case h_2 stop after ended => rw [ended]

/-- To run a tree is to evaluate what it means, or to leave the world as it is. -/
theorem world_run (host : Host) (tree : Tree) (builder : Builder) :
    (interpreter.run host tree builder).2.world = interpreter.world ∨
      ∃ expr, (interpreter.run host tree builder).2.world =
        (interpreter.evaluate host expr).2.world := by
  unfold run
  cases builder.build interpreter.separator tree with
  | error error => exact .inl rfl
  | ok expr => exact .inr ⟨expr, rfl⟩

/-- A request leaves the world in one of these ways. -/
theorem service (request : Request) :
    Service interpreter request (interpreter.serve request).world := by
  -- Evaluations and calls are runs; the other requests change one thing from outside.
  cases request with
  | evaluate host expr => exact interpreter.service_evalIn _ host expr root
  | evaluateCached host expr =>
    change Service interpreter _ (interpreter.evaluateCached host expr).2.world
    rcases interpreter.world_evaluateCached host expr with same | same
    · rw [same]
      exact .idle
    · rw [same]
      exact interpreter.service_evalIn _ host expr root
  | evalIn host expr frame => exact interpreter.service_evalIn _ host expr frame
  | run host tree builder =>
    change Service interpreter _ (interpreter.run host tree builder).2.world
    rcases interpreter.world_run host tree builder with same | ⟨expr, same⟩
    · rw [same]
      exact .idle
    · rw [same]
      exact interpreter.service_evalIn _ host expr root
  | call host function arguments =>
    obtain ⟨since, ran⟩ := interpreter.exists_ran_call host function arguments
    exact .ran ran
  | bind frame name value => exact .bound frame name value
  | child frame => exact .framed _
  | clear frame => exact .framed _
  | clearCache => exact .idle
  | setInterrupted interrupted => exact .asked interrupted

end Interpreter

end Scriptlet

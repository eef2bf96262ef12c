import Scriptlet.Proofs.Machine.Parallel

/-!
Invariants: what holds of a world before an evaluation and still holds of it afterwards.

With an invariant, a run goes in parallel with itself.
-/

namespace Scriptlet

open Evaluation

/-- What holds of the world, however an evaluation changes it. -/
structure Invariant extends Permission where
  /-- What holds while so many calls are under way. -/
  holds : Nat → World → Prop
  /-- Anything that happens may be written down. -/
  noted : ∀ {level world} happening, holds level world → holds level (world.note happening)
  /-- The run may be asked to stop. -/
  asked : ∀ {level world}, holds level world → holds level { world with interrupted := true }
  /-- A name that may be bound may be bound to anything. -/
  bind : ∀ {level world name frame value}, writes name frame → holds level world →
    holds level (world.bind frame name value)
  /-- Definitions may be counted. -/
  counted : ∀ {level world}, holds level world →
    holds level { world with definitions := world.definitions + 1 }
  /-- Calls may be counted as under way. -/
  deeper : ∀ {level world}, holds level world →
    holds (level + 1) { world with depth := world.depth + 1 }
  /-- Calls may be left. -/
  leave : ∀ {level world}, holds (level + 1) world → holds level (afterCall world)
  /-- Frames may be put into others. -/
  extend : ∀ {level world parent}, holds level world →
    holds level { world with heap := world.heap.extend parent }
  /-- In new frames, anything may be evaluated. -/
  inside : ∀ {level world expr}, holds level world → admits expr world.heap.next
  /-- In new frames, anything may be bound. -/
  fresh : ∀ {level world name}, holds level world → writes name world.heap.next

namespace Invariant

variable (invariant : Invariant) {context : Context} {frame : Nat} {world : World}

/-- Two runs of the same from one world in which the invariant holds. -/
def parallel (context : Context) : Parallel context context where
  excused _ := False
  worlds level world world' := world = world' ∧ invariant.holds level world
  toPermission := invariant.toPermission
  tolerance_eq := rfl
  places_eq := rfl
  host_eq := rfl
  heap_eq both := congrArg World.heap both.1
  definitions_eq both := congrArg World.definitions both.1
  hostCalls_eq both := congrArg World.hostCalls both.1
  stops both := .inl (congrArg World.interrupted both.1)
  room both := .inl (congrArg context.full? both.1)
  noted happening both := ⟨congrArg (·.note happening) both.1, invariant.noted happening both.2⟩
  asked both := by
    obtain ⟨rfl, held⟩ := both
    exact ⟨rfl, invariant.asked held⟩
  bind may both := by
    obtain ⟨rfl, held⟩ := both
    exact ⟨rfl, invariant.bind may held⟩
  counted both := by
    obtain ⟨rfl, held⟩ := both
    exact ⟨rfl, invariant.counted held⟩
  deeper both := by
    obtain ⟨rfl, held⟩ := both
    exact ⟨rfl, invariant.deeper held⟩
  leave both := by
    obtain ⟨rfl, held⟩ := both
    exact ⟨rfl, invariant.leave held⟩
  extend both := by
    obtain ⟨rfl, held⟩ := both
    exact ⟨rfl, invariant.extend held⟩
  inside both := invariant.inside both.2
  fresh both := invariant.fresh both.2

/-- An evaluation in step with itself keeps the invariant, however it ends. -/
theorem holds_after {level : Nat} {evaluation : Evaluation Value}
    (kept : (invariant.parallel context).relations.Keeps level
      (Value.Match (invariant.parallel context).relations.functions) evaluation evaluation)
    (held : invariant.holds level world) : invariant.holds level (evaluation.after world) := by
  -- Nothing is excused, so that both runs end in worlds that are the same.
  rcases (invariant.parallel context).ends kept ⟨rfl, held⟩ with ⟨stop, -, excused⟩ | ⟨-, same⟩
  · exact excused.elim
  · exact same.2

/-- Evaluating an expression keeps an invariant. -/
theorem holds_after_eval (level steps : Nat) {expr : Expr} (admitted : invariant.admits expr frame)
    (held : invariant.holds level world) :
    invariant.holds level ((eval context steps expr frame).after world) :=
  invariant.holds_after ((invariant.parallel context).eval_keeps level steps admitted) held

/-- Calling a function keeps an invariant. -/
theorem holds_after_call (level steps : Nat) (function : Function)
    (arguments : List Value) (held : invariant.holds level world) :
    invariant.holds level ((call context (eval context steps) function arguments).after world) :=
  invariant.holds_after ((invariant.parallel context).call_keeps level steps function arguments)
    held

/-- Evaluating an expression keeps an invariant if its shape is checked first. -/
theorem holds_after_checked (level steps : Nat) {expr : Expr}
    (admitted : invariant.admits expr frame) (held : invariant.holds level world) :
    invariant.holds level
      (Evaluation.after (do ofShape expr.validate; eval context steps expr frame) world) :=
  invariant.holds_after ((invariant.parallel context).checked_keeps level steps admitted) held

end Invariant

end Scriptlet

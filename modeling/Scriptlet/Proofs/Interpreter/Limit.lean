import Scriptlet.Proofs.Machine.Growth

/-!
What the limit of calls under way does to a run: it cuts the run off, or nothing.

Main statement: a run that does not end for want of room goes just the same with more room.
-/

namespace Scriptlet

open Evaluation

/-- A context with another limit of calls under way. -/
def Context.limited (context : Context) (maxDepth : Option Nat) : Context :=
  { context with settings := { context.settings with maxDepth } }

/-- Whether a limit, if there is one, leaves room for so many calls. -/
def Allows (maxDepth : Option Nat) (limit : Nat) : Prop :=
  ∀ further, maxDepth = some further → limit ≤ further

/-- Two runs of the same, of which the one on the right has more room for calls. -/
def Parallel.roomier (context : Context) {limit : Nat} {further : Option Nat}
    (more : Allows further limit) :
    Parallel (context.limited (some limit)) (context.limited further) := by
  refine .equal _ _ (fun stop => ∃ limit, stop = .failed (.tooDeep limit)) rfl rfl rfl ?_
  intro world
  cases full : (context.limited (some limit)).full? world with
  | some limit => exact .inr ⟨limit, rfl, limit, rfl⟩
  | none =>
    -- What the lower limit has room for, the higher one has.
    have room : world.depth < limit := Context.full?_eq_none_iff.mp full limit rfl
    refine .inl (Context.full?_eq_none_iff.mpr ?_).symm
    intro other limited
    exact Nat.lt_of_lt_of_le room (more other limited)

namespace Interpreter

/-- An interpreter with another limit of calls under way. -/
def limited (interpreter : Interpreter) (maxDepth : Option Nat) : Interpreter :=
  { interpreter with settings := { interpreter.settings with maxDepth } }

/-- Whether a run comes to the same as another one, in the same world, unless that is cut off. -/
def FollowsUncut (first second : Except Stop Value × Interpreter) : Prop :=
  (∀ reached, first.1 ≠ .error (.failed (.tooDeep reached))) →
    second.1 = first.1 ∧ second.2.world = first.2.world

variable (interpreter : Interpreter) (host : Host) {limit : Nat} {further : Option Nat}

/-- An evaluation in parallel with one that has less room follows it until that is cut off. -/
theorem followsUncut_perform (more : Allows further limit) {first second : Evaluation Value}
    (kept : (Parallel.roomier (interpreter.context host) more).relations.Keeps 0
      (Value.Match (Parallel.roomier (interpreter.context host) more).relations.functions)
      first second) :
    FollowsUncut ((interpreter.limited (some limit)).perform first)
      ((interpreter.limited further).perform second) := by
  rw [perform_eq, perform_eq]
  -- The run that is followed has not been cut off.
  intro uncut
  rcases (Parallel.roomier _ more).ends kept (rfl : interpreter.world = interpreter.world) with
    ⟨stop, stopped, reached, rfl⟩ | ⟨same, worlds⟩
  · exact absurd stopped (uncut reached)
  · exact ⟨same.symm, worlds.symm⟩

/-- A run of a tree that cannot be built ends there. -/
theorem run_of_build_error (interpreter : Interpreter) {tree : Tree} {builder : Builder}
    {error : BuildError} (failed : builder.build interpreter.separator tree = .error error) :
    interpreter.run host tree builder = (.error (.build error), interpreter) := by
  -- Nothing is evaluated.
  rw [run, failed]

/-- A run of a tree that can be built is an evaluation. -/
theorem run_of_build (interpreter : Interpreter) {tree : Tree} {builder : Builder} {expr : Expr}
    (built : builder.build interpreter.separator tree = .ok expr) :
    interpreter.run host tree builder = ((interpreter.evaluate host expr).1.mapError .stop,
      (interpreter.evaluate host expr).2) := by
  -- What is evaluated is what has been built.
  rw [run, built]

/--
A run that does not end for want of room comes to the same with more room, or with no limit at all.

It yields the same value or fails for the same reason, and leaves the same world behind: the same
frames with the same bindings, and a journal that tells of the same calls of the host.
-/
theorem roomier_evaluation (more : Allows further limit) :
    (∀ (expr : Expr) (frame : Nat),
      FollowsUncut ((interpreter.limited (some limit)).evalIn host expr frame)
        ((interpreter.limited further).evalIn host expr frame)) ∧
    (∀ expr : Expr, FollowsUncut ((interpreter.limited (some limit)).evaluate host expr)
      ((interpreter.limited further).evaluate host expr)) ∧
    (∀ (function : Function) (arguments : List Value),
      FollowsUncut ((interpreter.limited (some limit)).call host function arguments)
        ((interpreter.limited further).call host function arguments)) ∧
    (∀ (tree : Tree) (builder : Builder),
      (∀ reached, ((interpreter.limited (some limit)).run host tree builder).1 ≠
        .error (.stop (.failed (.tooDeep reached)))) →
      ((interpreter.limited further).run host tree builder).1 =
          ((interpreter.limited (some limit)).run host tree builder).1 ∧
        ((interpreter.limited further).run host tree builder).2.world =
          ((interpreter.limited (some limit)).run host tree builder).2.world) := by
  -- An expression is evaluated within the same steps on both sides.
  have evaluated (expr : Expr) (frame : Nat) :
      FollowsUncut ((interpreter.limited (some limit)).evalIn host expr frame)
        ((interpreter.limited further).evalIn host expr frame) :=
    interpreter.followsUncut_perform host more
      ((Parallel.roomier _ more).checked_keeps 0 steps trivial)
  refine ⟨evaluated, fun expr => evaluated expr root, fun function arguments => ?_,
    fun tree builder uncut => ?_⟩
  · exact interpreter.followsUncut_perform host more
      ((Parallel.roomier _ more).call_keeps 0 steps function arguments)
  · -- Building does not look at the limit.
    cases built : builder.build interpreter.separator tree with
    | error error =>
      have failed (maxDepth : Option Nat) :
          (interpreter.limited maxDepth).run host tree builder =
            (.error (.build error), interpreter.limited maxDepth) :=
        run_of_build_error host _ built
      rw [failed, failed]
      exact ⟨rfl, rfl⟩
    | ok expr =>
      have ran (maxDepth : Option Nat) := run_of_build host (interpreter.limited maxDepth) built
      rw [ran] at uncut
      rw [ran, ran]
      obtain ⟨same, worlds⟩ := evaluated expr root fun reached cut =>
        uncut reached (congrArg (·.mapError RunError.stop) cut)
      exact ⟨congrArg (·.mapError RunError.stop) same, worlds⟩

/-- Calls one inside the other, of functions that are defined on the spot. -/
def nestedCalls : Nat → Expr
  | 0 => .constant (.integer 1)
  | count + 1 => .plain .call [.plain .define [.plain .sequence [nestedCalls count]]]

/-- Room for one call is not enough for two; room for two is as good as no limit. -/
theorem roomier_nestedCalls :
    let interpreter := start { intrinsics := false } '.' []
    let host : Host := fun _ _ => ⟨.ok .emptyList, false⟩
    Allows none 2 ∧
      ((interpreter.limited (some 1)).evaluate host (nestedCalls 2)).1 =
        .error (.failed (.tooDeep 1)) ∧
      ((interpreter.limited (some 2)).evaluate host (nestedCalls 2)).1 = .ok (.integer 1) ∧
      ((interpreter.limited none).evaluate host (nestedCalls 2)).1 = .ok (.integer 1) ∧
      ((interpreter.limited none).evaluate host (nestedCalls 2)).2.world =
        ((interpreter.limited (some 2)).evaluate host (nestedCalls 2)).2.world := by
  intro interpreter host
  have unlimited : Allows none 2 := nofun
  -- Two calls fit into a limit of two.
  have uncut : ((interpreter.limited (some 2)).evaluate host (nestedCalls 2)).1 =
      .ok (.integer 1) := rfl
  obtain ⟨same, worlds⟩ := (roomier_evaluation interpreter host unlimited).2.1 (nestedCalls 2)
    fun reached cut => by
      rw [uncut] at cut
      cases cut
  exact ⟨unlimited, rfl, uncut, same.trans uncut, worlds⟩

end Interpreter

end Scriptlet

import Scriptlet.Proofs.Interpreter.History

/-!
What is bound when a value that has been kept stands in for an evaluation.

Main statement: nothing is missing but the names of functions that the evaluation would define.
A function that was defined, kept and cleared away is not bound again.
-/

namespace Scriptlet

namespace Expr

mutual

/-- The names of the functions that an expression defines outside the bodies of others. -/
def definedNames : Expr → List Name
  | node operation name children =>
    if operation == .define then name.toList else allDefinedNames children
  | _ => []

/-- The names of the functions that expressions define outside the bodies of others. -/
def allDefinedNames : List Expr → List Name
  | [] => []
  | expr :: rest => expr.definedNames ++ allDefinedNames rest

end

mutual

/-- All that evaluation binds of an expression that looks no names up are functions it defines. -/
theorem targets_eq_definedNames : (expr : Expr) → expr.isDeterministic = true →
    expr.targets = expr.definedNames
  | literal .., _ | symbol _, _ => rfl
  | node operation name children, deterministic => by
    -- No node below binds a name but definitions, whose own parts are not evaluated.
    simp only [isDeterministic, Bool.and_eq_true] at deterministic
    rw [targets, definedNames, boundName?_of_deterministic deterministic.2,
      allTargets_eq_allDefinedNames children deterministic.2]
    rfl

/-- All that evaluation binds of expressions that look no names up are functions they define. -/
theorem allTargets_eq_allDefinedNames : (exprs : List Expr) → allDeterministic exprs = true →
    allTargets exprs = allDefinedNames exprs
  | [], _ => rfl
  | expr :: rest, deterministic => by
    -- The first expression looks no names up, and neither do the others.
    simp only [allDeterministic, Bool.and_eq_true] at deterministic
    rw [allTargets, allDefinedNames, targets_eq_definedNames expr deterministic.1,
      allTargets_eq_allDefinedNames rest deterministic.2]

end

end Expr

namespace Interpreter

open Evaluation

/-- In a sound interpreter, evaluation binds what the kept value of an expression leaves unbound. -/
theorem Sound.binds_evaluateCached {settings : Settings} {interpreter : Interpreter}
    (sound : Sound settings interpreter) (host : Host) {expr : Expr} {name : Name}
    (known : name ∈ expr.definedNames → interpreter.world.heap.binds root name = true) :
    (interpreter.evaluateCached host expr).2.world.heap.binds root name =
      (interpreter.evaluate host expr).2.world.heap.binds root name := by
  unfold Interpreter.evaluateCached
  cases kept : interpreter.cached? expr with
  | none =>
    -- Nothing has been kept, so the expression is evaluated; keeping its value binds nothing.
    simp only
    split
    case h_1 value after ended =>
      rw [ended, Interpreter.remember]
      split <;> rfl
    case h_2 stop after ended => rw [ended]
  | some value =>
    -- A value is kept only of an expression without names, of which evaluation binds definitions.
    obtain ⟨deterministic, -⟩ := sound.cached (mem_of_lookup kept)
    have grown := grown_evalIn interpreter host expr root
    rw [Expr.targets_eq_definedNames expr deterministic] at grown
    exact (grown.binds_eq sound.steady.2 fun gained => known gained.2).symm

/--
Whatever an interpreter has been asked to do, a kept value binds what evaluation would have bound.

The root frame binds a name after the one exactly if it does after the other, unless the expression
defines a function of this name that is no longer bound.
-/
theorem binds_evaluateCached_eq (settings : Settings) (separator : Char)
    (bindings : List (Name × Value)) (requests : List Request) (interpreter : Interpreter)
    (host : Host) (expr : Expr) (name : Name)
    (history : interpreter = requests.foldl serve (start settings separator bindings))
    (known : name ∈ expr.definedNames → interpreter.world.heap.binds root name = true) :
    (interpreter.evaluateCached host expr).2.world.heap.binds root name =
      (interpreter.evaluate host expr).2.world.heap.binds root name := by
  -- Any history leaves a sound interpreter.
  subst history
  exact (sound_after settings separator bindings requests).binds_evaluateCached host known

/-- The definition of a function that has a name, no parameters, and looks nothing up. -/
def namedConstant : Expr :=
  .node .define (some ⟨"F"⟩) [.plain .sequence [.constant (.integer 1)]]

/-- While the function stays bound, it is bound after either way to ask for its definition again. -/
theorem binds_evaluateCached_eq_namedConstant :
    let host : Host := fun _ _ => ⟨.ok .emptyList, false⟩
    let interpreter := [.evaluateCached host namedConstant].foldl serve
      (start { intrinsics := false } '.' [])
    interpreter.world.heap.binds root ⟨"F"⟩ = true ∧
      (interpreter.evaluateCached host namedConstant).2.world.heap.binds root ⟨"F"⟩ =
        (interpreter.evaluate host namedConstant).2.world.heap.binds root ⟨"F"⟩ := by
  intro host interpreter
  -- The definition is kept, and the function that it has bound is still bound.
  have bound : interpreter.world.heap.binds root ⟨"F"⟩ = true := rfl
  exact ⟨bound, binds_evaluateCached_eq { intrinsics := false } '.' [] _ interpreter host
    namedConstant ⟨"F"⟩ rfl fun _ => bound⟩

/-- Once the function has been cleared away, its kept value leaves it unbound. -/
theorem not_binds_evaluateCached_cleared :
    let host : Host := fun _ _ => ⟨.ok .emptyList, false⟩
    let interpreter := [.evaluateCached host namedConstant, .clear root].foldl serve
      (start { intrinsics := false } '.' [])
    interpreter.world.interrupted = false ∧
      (∃ value, (interpreter.evaluateCached host namedConstant).1 = .ok value) ∧
      (interpreter.evaluateCached host namedConstant).2.world.heap.binds root ⟨"F"⟩ = false ∧
      (interpreter.evaluate host namedConstant).2.world.heap.binds root ⟨"F"⟩ = true := by
  -- The history is run, and what it leaves is looked at.
  intro host interpreter
  exact ⟨rfl, ⟨_, rfl⟩, rfl, rfl⟩

end Interpreter

end Scriptlet

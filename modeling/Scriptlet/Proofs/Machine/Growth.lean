import Scriptlet.Interpreter
import Scriptlet.Proofs.Heap.Growth
import Scriptlet.Proofs.Machine.Invariant

/-!
What evaluation does to frames that were there before.

Main statement: nothing is lost or changed, and only the frame that an expression is evaluated in
gains bindings, of names that the expression binds.
-/

namespace Scriptlet

open Evaluation

namespace Expr

/-- The name that a node binds once its children are evaluated. -/
def boundName? (operation : Operation) (children : List Expr) : Option Name :=
  if operation == .bind then children.head?.bind symbol? else none

mutual

/-- The names that evaluation of an expression may bind: those of bindings and of definitions. -/
def targets : Expr → List Name
  | node operation name children =>
    -- A definition is not looked into, as its body is evaluated in frames of its own.
    if operation == .define then name.toList
    else (boundName? operation children).toList ++ allTargets children
  | _ => []

/-- The names that evaluation of some expressions may bind. -/
def allTargets : List Expr → List Name
  | [] => []
  | expr :: rest => expr.targets ++ allTargets rest

end

/-- What an expression in a list binds, the list binds. -/
theorem mem_allTargets {exprs : List Expr} {expr : Expr} {name : Name} (member : expr ∈ exprs)
    (bound : name ∈ expr.targets) : name ∈ allTargets exprs := by
  -- By induction on the list.
  induction exprs with
  | nil => cases member
  | cons first rest ih =>
    rw [allTargets, List.mem_append]
    rcases List.mem_cons.mp member with rfl | member
    · exact .inl bound
    · exact .inr (ih member)

/-- What a part of a node binds, the node binds, unless the node is a definition. -/
theorem mem_targets_of_part {operation : Operation} {name : Option Name} {children : List Expr}
    {child : Expr} {bound : Name} (inner : operation ≠ .define) (member : child ∈ children)
    (binds : bound ∈ child.targets) : bound ∈ (node operation name children).targets := by
  -- A node that is no definition gathers what its children bind.
  simp [targets, inner, mem_allTargets member binds]

/-- A node whose children look no names up does not bind one, as a binding starts with a name. -/
theorem boundName?_of_deterministic {operation : Operation} {children : List Expr}
    (deterministic : allDeterministic children = true) : boundName? operation children = none := by
  -- Only the first child of a binding could name something, and it would have to be a name.
  unfold boundName?
  split
  · cases children with
    | nil => rfl
    | cons target rest =>
      cases target with
      | symbol => simp [allDeterministic, isDeterministic] at deterministic
      | literal | node => rfl
  · rfl

end Expr

/-- Evaluation lets a heap grow, with bindings only where it may gain them. -/
def Invariant.growth (gains : Nat → Name → Prop) (before : Heap) : Invariant where
  holds _ world := Heap.Grown gains before world.heap
  admits expr frame := before.next ≤ frame ∨ ∀ name ∈ expr.targets, gains frame name
  writes name frame := before.next ≤ frame ∨ gains frame name
  part admitted inner member := admitted.imp_right fun may name binds =>
    may name (Expr.mem_targets_of_part inner member binds)
  target admitted := admitted.imp_right fun may =>
    may _ (by simp [Expr.targets, Expr.boundName?, Expr.symbol?])
  callee _ := .inr (by simp [Expr.targets])
  named admitted := admitted.imp_right fun may => may _ (by simp [Expr.targets])
  noted _ grown := grown
  asked grown := grown
  bind may grown := by
    rw [World.heap_bind]
    exact grown.bind may
  counted grown := grown
  deeper grown := grown
  leave grown := grown
  extend grown := grown.extend
  inside grown := .inl grown.next_le
  fresh grown := .inl grown.next_le

namespace Interpreter

/-- An interpreter takes over what an evaluation comes to and the world that it leaves behind. -/
theorem perform_eq {α : Type} (interpreter : Interpreter) (evaluation : Evaluation α) :
    interpreter.perform evaluation =
      (evaluation.outcome interpreter.world,
        { interpreter with world := evaluation.after interpreter.world }) := by
  -- Both are the same look at how the evaluation ends.
  unfold perform outcome after
  cases evaluation interpreter.world <;> rfl

/-- What binding keeps is kept while names are bound one after the other. -/
theorem holds_bindAll {holds : World → Prop} {frame : Nat} {bindings : List (Name × Value)}
    (keeps : ∀ entry ∈ bindings, ∀ world, holds world →
      holds (world.bind frame entry.1 entry.2)) {world : World} (held : holds world) :
    holds (bindAll world frame bindings) := by
  -- By induction on the bindings, from any world in which it holds.
  unfold Interpreter.bindAll
  induction bindings generalizing world with
  | nil => exact held
  | cons entry rest ih =>
    exact ih (fun other member => keeps other (by simp [member])) (keeps entry (by simp) world held)

/-- What holds of the first world and is kept by binding holds of a new interpreter's world. -/
theorem holds_start {holds : World → Prop} {bindings : List (Name × Value)} (settings : Settings)
    (separator : Char) (initially : holds .initial)
    (keeps : ∀ entry ∈ bindings ++ library, ∀ world, holds world →
      holds (world.bind root entry.1 entry.2)) :
    holds (start settings separator bindings).world := by
  -- What the caller binds comes first, and the library after it if it is asked for.
  have bound : holds (bindAll .initial root bindings) :=
    holds_bindAll (fun entry member => keeps entry (by simp [member])) initially
  unfold start
  dsimp only
  split
  · exact holds_bindAll (fun entry member => keeps entry (by simp [member])) bound
  · exact bound

/-- An expression whose shape is checked first lets a heap grow by what it binds in its frame. -/
theorem grown_evalIn (interpreter : Interpreter) (host : Host) (expr : Expr) (frame : Nat) :
    Heap.Grown (fun gaining name => gaining = frame ∧ name ∈ expr.targets)
      interpreter.world.heap (interpreter.evalIn host expr frame).2.world.heap := by
  -- The check of the shape comes first; the frame is the one that the expression binds in.
  rw [evalIn, perform_eq]
  exact (Invariant.growth _ _).holds_after_checked 0 steps
    (.inr fun name binds => ⟨rfl, binds⟩) (.refl _)

/--
Evaluation loses nothing and changes nothing that was bound or enclosed before, even if it fails.

Of the frames that were there before, an expression adds bindings at most to its own, and only of
names that it binds outside the bodies of definitions. A call adds none.
-/
theorem grown_after_evaluation :
    (∀ (context : Context) (steps : Nat) (expr : Expr) (frame : Nat) (world : World),
      Heap.Grown (fun gaining name => gaining = frame ∧ name ∈ expr.targets) world.heap
        ((eval context steps expr frame).after world).heap) ∧
    (∀ (interpreter : Interpreter) (host : Host) (expr : Expr) (frame : Nat),
      Heap.Grown (fun gaining name => gaining = frame ∧ name ∈ expr.targets)
        interpreter.world.heap (interpreter.evalIn host expr frame).2.world.heap) ∧
    (∀ (interpreter : Interpreter) (host : Host) (expr : Expr),
      Heap.Grown (fun gaining name => gaining = root ∧ name ∈ expr.targets)
        interpreter.world.heap (interpreter.evaluate host expr).2.world.heap) ∧
    (∀ (context : Context) (steps : Nat) (function : Function) (arguments : List Value)
      (world : World), Heap.Grown (fun _ _ => False) world.heap
        ((Evaluation.call context (eval context steps) function arguments).after world).heap) ∧
    (∀ (interpreter : Interpreter) (host : Host) (function : Function) (arguments : List Value),
      Heap.Grown (fun _ _ => False) interpreter.world.heap
        (interpreter.call host function arguments).2.world.heap) := by
  -- In a call all names are bound in frames that are new, so that no older frame gains any.
  have called (context : Context) (steps : Nat) (function : Function) (arguments : List Value)
      (world : World) : Heap.Grown (fun _ _ => False) world.heap
        ((Evaluation.call context (eval context steps) function arguments).after world).heap :=
    (Invariant.growth _ _).holds_after_call 0 steps function arguments (.refl _)
  -- The frame itself is the only one that may gain, and just the names that the expression binds.
  refine ⟨fun context steps expr frame world => ?_, grown_evalIn, fun interpreter host expr => ?_,
    called, fun interpreter host function arguments => ?_⟩
  · exact (Invariant.growth _ _).holds_after_eval 0 steps
      (.inr fun name binds => ⟨rfl, binds⟩) (.refl _)
  · exact grown_evalIn interpreter host expr root
  · rw [Interpreter.call, perform_eq]
    exact called _ _ _ _ _

end Interpreter

end Scriptlet

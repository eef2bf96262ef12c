import Scriptlet.Proofs.Interpreter.Service
import Scriptlet.Proofs.Machine.Isolation
import Scriptlet.Proofs.Machine.Order

/-!
Names and frames in every world that can come about.

Main statement: whatever is done with frames and interpreters, the way outwards from a frame comes
to an end, and it tells the value of every name and what a new binding changes.
-/

namespace Scriptlet

open Evaluation Value

namespace World

/-- Whether the functions of scripts in a value were defined in frames that are there. -/
def Knows (world : World) (value : Value) : Prop :=
  Fits (fun closure => closure.frame < world.heap.next) value

/-- Whether a host answers with no functions of scripts but known ones and those handed to it. -/
def Trusts (world : World) (host : Host) : Prop :=
  host.Loyal (fun closure => closure.frame < world.heap.next) world.hostCalls.length

/--
The worlds that come about when frames are made, bound in and cleared, and expressions evaluated.

Frames and functions are used only by those who have got hold of them, so that they are there.
-/
inductive Reachable : World → Prop where
  /-- There are no frames at first. -/
  | blank {world : World} : world.heap = ⟨#[]⟩ → Reachable world
  /-- A frame is made that nothing encloses. -/
  | root {world : World} : Reachable world →
      Reachable { world with heap := world.heap.addRoot }
  /-- A frame is put into another. -/
  | child {world : World} {parent : Nat} : Reachable world → parent < world.heap.next →
      Reachable { world with heap := world.heap.extend parent }
  /-- A name is bound in a frame. -/
  | bound {world : World} (frame : Nat) (name : Name) {value : Value} : Reachable world →
      world.Knows value → Reachable (world.bind frame name value)
  /-- The bindings of a frame are dropped. -/
  | cleared {world : World} (frame : Nat) : Reachable world →
      Reachable { world with heap := world.heap.clear frame }
  /-- An expression is evaluated in a frame; the run may end, fail or be cut off. -/
  | evaluated {world : World} {context : Context} (steps : Nat) (expr : Expr) {frame : Nat} :
      Reachable world → world.Trusts context.host → frame < world.heap.next →
      Reachable ((eval context steps expr frame).after world)
  /-- A function is called. -/
  | called {world : World} {context : Context} (steps : Nat) {function : Function}
      {arguments : List Value} : Reachable world → world.Trusts context.host →
      world.Knows (.function function) → world.Knows (.list arguments) →
      Reachable ((Evaluation.call context (eval context steps) function arguments).after world)
  /-- Anything but the frames is another; interpreters may share their frames. -/
  | besides {world other : World} : Reachable world → other.heap = world.heap → Reachable other

variable {world : World}

/-- Whatever comes about, its frames are in order. -/
theorem Reachable.orderly (reachable : world.Reachable) : world.heap.Orderly := by
  -- At the start of a run the host has been told nothing since, and there are no newer frames.
  have start {world : World} (orderly : world.heap.Orderly) :
      (orderlyStock world.hostCalls world.heap.next).holds 0 world :=
    ⟨orderly, Nat.le_refl _, [], rfl, nofun⟩
  induction reachable with
  -- Each step is one that frames in order allow.
  | blank empty => exact empty ▸ Heap.orderly_empty
  | root _ ih => exact ih.addRoot
  | child _ there ih => exact ih.extend there
  | bound frame name _ known ih =>
    rw [heap_bind]
    exact ih.bind known frame name
  | cleared frame _ ih => exact ih.clear frame
  -- The evaluator keeps the stock of what has been made, and its frames with it.
  | evaluated steps expr _ trusts there ih =>
    have upheld := upheld_orderlyStock trusts
    exact ((upheld.keepsAll_eval steps 0 _ expr _ there).leads_after (start ih)).holds.1
  -- The function called and its arguments are part of the stock from the start.
  | called steps _ trusts known all ih =>
    have upheld := upheld_orderlyStock trusts
    exact ((upheld.call_keeps steps known (allMade_orderlyStock_iff.mpr all)).leads_after
      (start ih)).holds.1
  | besides _ same ih => exact same ▸ ih

end World

namespace Interpreter

open World

variable {interpreter : Interpreter} {host : Host}

/-- A new interpreter that is given no functions of scripts has a world that can come about. -/
theorem reachable_start (settings : Settings) (separator : Char) {bindings : List (Name × Value)}
    (plain : ∀ entry ∈ bindings, entry.2.closures = []) :
    (start settings separator bindings).world.Reachable := by
  -- The root is the first frame, and all that is bound in it is without functions.
  have blank : Reachable { World.initial with heap := ⟨#[]⟩ } := .blank rfl
  refine holds_start settings separator blank.root fun entry member world reachable => ?_
  refine reachable.bound root entry.1 fun closure held => ?_
  have none : entry.2.closures = [] :=
    (List.mem_append.mp member).elim (plain entry) (closures_of_library entry)
  rw [none] at held
  cases held

/-- What evaluation leaves behind can come about, whether or not shapes are checked first. -/
theorem reachable_evalIn (reachable : interpreter.world.Reachable)
    (trusts : interpreter.world.Trusts host) (expr : Expr) {frame : Nat}
    (there : frame < interpreter.world.heap.next) :
    (interpreter.evalIn host expr frame).2.world.Reachable := by
  -- A wrong shape is found before anything is done, and all else is evaluation.
  rw [evalIn, perform_eq]
  cases shaped : expr.validate with
  | error error => exact reachable.besides rfl
  | ok =>
    have trusts' : interpreter.world.Trusts (interpreter.context host).host := trusts
    exact reachable.evaluated steps expr trusts' there

/-- What a call leaves behind can come about. -/
theorem reachable_call (reachable : interpreter.world.Reachable)
    (trusts : interpreter.world.Trusts host) {function : Function} {arguments : List Value}
    (known : interpreter.world.Knows (.function function))
    (all : interpreter.world.Knows (.list arguments)) :
    (interpreter.call host function arguments).2.world.Reachable := by
  -- The check of shapes is no part of a call.
  rw [Interpreter.call, perform_eq]
  have trusts' : interpreter.world.Trusts (interpreter.context host).host := trusts
  exact reachable.called steps trusts' known all

/-- Whether all that a request speaks of is there, and its host is one to be trusted. -/
def Grants (world : World) : Request → Prop
  | .evaluate host _ | .evaluateCached host _ | .run host _ _ =>
    world.Trusts host ∧ root < world.heap.next
  | .evalIn host _ frame => world.Trusts host ∧ frame < world.heap.next
  | .call host called arguments =>
    world.Trusts host ∧ world.Knows (.function called) ∧ world.Knows (.list arguments)
  | .bind _ _ value => world.Knows value
  | .child frame => frame < world.heap.next
  | .clear _ | .clearCache | .setInterrupted _ => True

/-- Whatever an interpreter is asked to do, its world is one that can come about. -/
theorem reachable_serve (reachable : interpreter.world.Reachable) {request : Request}
    (granted : Grants interpreter.world request) :
    (interpreter.serve request).world.Reachable := by
  -- Each request is one of the ways in which worlds come about, or two of them.
  cases request with
  | evaluate host expr => exact reachable_evalIn reachable granted.1 expr granted.2
  | evaluateCached host expr =>
    change (interpreter.evaluateCached host expr).2.world.Reachable
    rcases interpreter.world_evaluateCached host expr with same | same <;> rw [same]
    · -- What has been kept is looked up, and nothing happens.
      exact reachable
    · exact reachable_evalIn reachable granted.1 expr granted.2
  | evalIn host expr frame => exact reachable_evalIn reachable granted.1 expr granted.2
  | run host tree builder =>
    change (interpreter.run host tree builder).2.world.Reachable
    rcases interpreter.world_run host tree builder with same | ⟨expr, same⟩ <;> rw [same]
    · -- The tree was not built, and nothing happens.
      exact reachable
    · exact reachable_evalIn reachable granted.1 expr granted.2
  | call host function arguments =>
    exact reachable_call reachable granted.1 granted.2.1 granted.2.2
  | bind frame name value =>
    have known : interpreter.world.Knows value := granted
    exact reachable.bound frame name known
  | child frame => exact reachable.child granted
  | clear frame => exact reachable.cleared frame
  | clearCache => exact reachable
  | setInterrupted interrupted => exact reachable.besides rfl

/-- Whether requests are granted one after the other, each when it is its turn. -/
def GrantsAll (interpreter : Interpreter) : List Request → Prop
  | [] => True
  | request :: rest => Grants interpreter.world request ∧ (interpreter.serve request).GrantsAll rest

/-- Over the life of an interpreter, its world is one that can come about. -/
theorem reachable_after (reachable : interpreter.world.Reachable) {requests : List Request}
    (granted : interpreter.GrantsAll requests) :
    (requests.foldl serve interpreter).world.Reachable := by
  -- One request after the other, each granted in the world that the earlier ones left.
  induction requests generalizing interpreter with
  | nil => exact reachable
  | cons request rest ih => exact ih (reachable_serve reachable granted.1) granted.2

/--
From every frame there is a way outwards that comes to an end, in whatever world comes about.

It is all that names hang on: the value of a name is that of the first frame on the way that binds
it, and to bind a name changes what is found only where nothing before that frame, and not the frame
itself, has bound it.
-/
theorem exists_lineage (world : World) (reachable : world.Reachable) (frame : Nat) :
    ∃ frames, world.heap.Lineage frame frames := by
  -- Frames in order lie each behind the one that it is in, so that the way outwards is finite.
  obtain ⟨frames, chain⟩ := reachable.orderly.layered.exists_chain frame
  exact ⟨frames, chain.lineage reachable.orderly.layered⟩

/-- A function with a parameter is called on the spot. -/
def calledOnTheSpot : Expr :=
  .plain .call [
    .plain .define [.plain .pair [.symbol ⟨"X"⟩, .symbol ⟨"INTEGER"⟩],
      .plain .sequence [.symbol ⟨"X"⟩]],
    .constant (.integer 5)]

/-- The call is made inside the root, where its parameter has another value. -/
def shadowed : Interpreter :=
  [.bind root ⟨"X"⟩ (.integer 1), .child root, .evalIn mute calledOnTheSpot 1].foldl serve
    (start { intrinsics := false } '.' [])

/-- The frame of the call lies in two others, and the parameter hides what the root binds. -/
theorem exists_lineage_shadowed :
    shadowed.world.Reachable ∧ shadowed.world.heap.Lineage 2 [2, 1, 0] ∧
      shadowed.world.heap.lookup 1 ⟨"X"⟩ = some (.integer 1) ∧
      shadowed.world.heap.lookup 2 ⟨"X"⟩ = some (.integer 5) := by
  have plain (world : World) : world.Knows (.integer 1) := by
    intro closure member
    cases member
  have trusts (world : World) : world.Trusts mute := by
    intro earlier call value answered closure member
    cases answered
    cases member
  have reachable : shadowed.world.Reachable :=
    reachable_after (reachable_start _ _ (by simp))
      -- Each of the three requests speaks only of frames that are there by then.
      ⟨plain _, (show root < Heap.next _ by decide), ⟨trusts _, by decide +kernel⟩, trivial⟩
  obtain ⟨frames, lineage⟩ := exists_lineage shadowed.world reachable 2
  have chain : shadowed.world.heap.Chain 2 [2, 1, 0] :=
    .inside (by decide +kernel) (.inside (by decide +kernel) (.last (by decide +kernel)))
  -- The way outwards is unique, so that it can be compared with the one written out.
  rw [← lineage.unique _ chain] at lineage
  exact ⟨reachable, lineage, by decide +kernel, by decide +kernel⟩

end Interpreter

end Scriptlet

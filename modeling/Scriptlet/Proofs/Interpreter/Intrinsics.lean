import Scriptlet.Proofs.Interpreter.Run
import Scriptlet.Proofs.Machine.Unmentioned

/-!
The built-in library makes no difference to scripts that do not mention it.

Main statement: with the library or without it, an expression comes to the same, calls the host in
the same way and adds the same bindings, as long as neither the expression nor any function in reach
mentions a name of the library.
-/

namespace Scriptlet

open Evaluation Value Heap

/-- Whether a name is one that the library binds. -/
def IsIntrinsic (name : Name) : Prop :=
  name ∈ library.map Prod.fst

instance (name : Name) : Decidable (IsIntrinsic name) :=
  inferInstanceAs (Decidable (name ∈ library.map Prod.fst))

/-- Worlds stay the same but for hidden names when one of these is bound in the one place. -/
theorem World.SameBut.bind_hidden {place : Nat} {hidden : Name → Prop} {world world' : World}
    (same : World.SameBut place hidden world world') {name : Name} (hides : hidden name)
    (value : Value) : World.SameBut place hidden (world.bind place name value) world' where
  there := by simpa using same.there
  next_eq := by simpa using same.next_eq
  parent?_eq frame := by
    rw [heap_bind, parent?_bind, same.parent?_eq]
  find?_eq {frame other} seen := by
    have elsewhere : ¬(frame = place ∧ other = name) := by
      rintro ⟨rfl, rfl⟩
      exact seen.elim (fun differ => differ rfl) fun shows => shows hides
    rw [heap_bind, find?_bind_of_ne _ elsewhere, same.find?_eq seen]
  depth_eq := by simpa using same.depth_eq
  interrupted_eq := by simpa using same.interrupted_eq
  definitions_eq := by simpa using same.definitions_eq
  hostCalls_eq := by
    -- The binding is written down on one side only, but it is no call of the host.
    rw [← same.hostCalls_eq]
    unfold World.bind
    split
    · rfl
    · exact hostCalls_note _ _

/-- A world is the same as itself but for names hidden in a frame that is there. -/
theorem World.SameBut.refl {place : Nat} {hidden : Name → Prop} {world : World}
    (there : place < world.heap.next) : World.SameBut place hidden world world where
  there := there
  next_eq := rfl
  parent?_eq _ := rfl
  find?_eq _ := rfl
  depth_eq := rfl
  interrupted_eq := rfl
  definitions_eq := rfl
  hostCalls_eq := rfl

namespace Interpreter

/-- Whether two interpreters are the same but for the library, which one of them may have. -/
structure SameButLibrary (left right : Interpreter) : Prop where
  /-- Their settings differ at most in whether the library is there. -/
  settings_eq : left.settings = { right.settings with intrinsics := left.settings.intrinsics }
  /-- Their worlds differ at most in what the root binds to names of the library. -/
  world : World.SameBut root IsIntrinsic left.world right.world

variable {left right : Interpreter}

/-- A new interpreter with the library is the same as one without but for the library. -/
theorem sameButLibrary_start (settings : Settings) (separator : Char)
    (bindings : List (Name × Value)) :
    SameButLibrary (start { settings with intrinsics := true } separator bindings)
      (start { settings with intrinsics := false } separator bindings) where
  settings_eq := rfl
  world := by
    let bare := bindAll .initial root bindings
    have there : root < bare.heap.next := by
      let holds (world : World) : Prop := root < world.heap.next
      have keeps : ∀ entry ∈ bindings, ∀ world, holds world →
          holds (world.bind root entry.1 entry.2) :=
        fun entry _ world there => by simpa [holds] using there
      exact holds_bindAll keeps Nat.one_pos
    -- The library is bound last, name by name, and each of them is hidden.
    let holds (world : World) : Prop := World.SameBut root IsIntrinsic world bare
    have keeps : ∀ entry ∈ library, ∀ world, holds world →
        holds (world.bind root entry.1 entry.2) :=
      fun entry member world same => same.bind_hidden (List.mem_map.mpr ⟨entry, member, rfl⟩) _
    have installed := holds_bindAll keeps (World.SameBut.refl there)
    unfold start
    dsimp only
    rwa [if_pos rfl, if_neg Bool.false_ne_true]

/-- Interpreters stay the same but for the library when frames are put into others. -/
theorem SameButLibrary.child (same : SameButLibrary left right) (parent : Nat) :
    (left.child parent).1 = (right.child parent).1 ∧
      SameButLibrary (left.child parent).2 (right.child parent).2 :=
  ⟨same.world.next_eq, same.settings_eq, same.world.extend parent⟩

/-- Interpreters stay the same but for the library when the host binds what is no name of it. -/
theorem SameButLibrary.bind (same : SameButLibrary left right) {frame : Nat} {name : Name}
    (seen : frame ≠ root ∨ ¬IsIntrinsic name) (value : Value) :
    (left.bind frame name value).1 = (right.bind frame name value).1 ∧
      SameButLibrary (left.bind frame name value).2 (right.bind frame name value).2 :=
  ⟨congrArg (!·) (same.world.binds_eq seen), same.settings_eq, same.world.bind seen value⟩

/-- What interpreters come to that are the same but for the library, if they do not take note of
it: the same result, the same new entries in the journal, and worlds that still differ only in the
names of the library, which are bound as they were. -/
structure Unaffected (left right : Interpreter)
    (leftEnd rightEnd : Except Stop Value × Interpreter) : Prop where
  /-- They come to the same value or fail for the same reason. -/
  outcome_eq : leftEnd.1 = rightEnd.1
  /-- They are still the same but for the library. -/
  same : SameButLibrary leftEnd.2 rightEnd.2
  /-- The same has happened in both: calls, bindings and all else. -/
  since : World.SameSince left.world right.world leftEnd.2.world rightEnd.2.world
  /-- The names of the library are bound in the root as they were. -/
  kept : ∀ name, IsIntrinsic name →
    leftEnd.2.world.heap.find? root name = left.world.heap.find? root name ∧
      rightEnd.2.world.heap.find? root name = right.world.heap.find? root name

/-- Evaluations in step behind the veil of the library are unaffected by it. -/
theorem SameButLibrary.unaffected_perform {roots : Nat → Prop} (same : SameButLibrary left right)
    (trusted : ∀ closure, left.world.heap.Reached roots closure →
      closure.SilentIn (left.world.heap.scope roots) IsIntrinsic)
    {first second : Evaluation Value}
    (kept : (veil root IsIntrinsic (left.world.heap.scope roots) left.world right.world).Keeps 0
      (Match (sameFit (Closure.SilentIn (left.world.heap.scope roots) IsIntrinsic)))
      first second) :
    Unaffected left right (left.perform first) (right.perform second) := by
  rw [perform_eq, perform_eq]
  have veiled : World.Veiled root IsIntrinsic (left.world.heap.scope roots) left.world
      right.world left.world right.world :=
    ⟨same.world, World.sound_of_reached trusted, ⟨[], rfl, rfl⟩, fun _ _ => ⟨rfl, rfl⟩⟩
  rcases kept.ends veiled with ⟨stop, -, excused⟩ | ⟨alike, after⟩
  · exact excused.elim
  -- Values that correspond are the same, for no numbers of functions or frames differ.
  · exact ⟨alike.eq fun value value' same => ((match_sameFit_iff value value').mp same).1,
      ⟨same.settings_eq, after.same⟩, after.since, after.kept⟩

/--
Names of the library that nothing mentions do not matter.

New interpreters with the library and without it are the same but for it, and so they stay while
the host makes frames and binds what is no name of the library in the root. An expression that
mentions no such name comes to the same in both of them and in any frame, with the same entries in
the journal, if no function mentions one either that can be reached from there, or from other frames
besides, and the host adds no functions of its own.
-/
theorem unaffected_evaluation :
    (∀ (settings : Settings) (separator : Char) (bindings : List (Name × Value)),
      SameButLibrary (start { settings with intrinsics := true } separator bindings)
        (start { settings with intrinsics := false } separator bindings)) ∧
    ∀ left right, SameButLibrary left right →
      (∀ parent, (left.child parent).1 = (right.child parent).1 ∧
        SameButLibrary (left.child parent).2 (right.child parent).2) ∧
      (∀ frame name value, frame ≠ root ∨ ¬IsIntrinsic name →
        (left.bind frame name value).1 = (right.bind frame name value).1 ∧
          SameButLibrary (left.bind frame name value).2 (right.bind frame name value).2) ∧
      ∀ (host : Host) (roots : Nat → Prop) (frame : Nat) (expr : Expr),
        roots frame → expr.Silent IsIntrinsic →
        (∀ closure, left.world.heap.Reached roots closure → closure.body.Silent IsIntrinsic) →
        host.Loyal (left.world.heap.Reached roots) left.world.hostCalls.length →
        (∀ steps, Unaffected left right
          (left.perform (eval (left.context host) steps expr frame))
          (right.perform (eval (right.context host) steps expr frame))) ∧
        Unaffected left right (left.evalIn host expr frame) (right.evalIn host expr frame) := by
  refine ⟨sameButLibrary_start, fun left right same => ⟨same.child,
    fun frame name value seen => same.bind seen value, ?_⟩⟩
  intro host roots frame expr inside silent bodies loyal
  -- What can be reached, and all frames that are still to come, make up the region of the veil.
  have trusted (closure : Closure) (reached : left.world.heap.Reached roots closure) :
      closure.SilentIn (left.world.heap.scope roots) IsIntrinsic :=
    ⟨reached.scope, bodies closure reached⟩
  have tolerance_eq : left.settings.tolerance = right.settings.tolerance :=
    (congrArg Settings.tolerance same.settings_eq).trans rfl
  have places_eq : left.settings.places = right.settings.places :=
    (congrArg Settings.places same.settings_eq).trans rfl
  have maxDepth_eq : left.settings.maxDepth = right.settings.maxDepth :=
    (congrArg Settings.maxDepth same.settings_eq).trans rfl
  have simulation : Simulation
      (veil root IsIntrinsic (left.world.heap.scope roots) left.world right.world)
      (left.context host) (right.context host) :=
    veil_simulation tolerance_eq places_eq maxDepth_eq rfl loyal trusted fun _ new => .inr new
  have kept (steps : Nat) := simulation.eval_keeps steps 0 expr frame frame
    ⟨rfl, .inl (.root inside), silent⟩
  refine ⟨fun steps => same.unaffected_perform trusted (kept steps),
    same.unaffected_perform trusted ?_⟩
  exact InStep.bind (simulation.ofShape expr.validate) fun _ _ _ => kept steps

/-- A function that doubles its parameter, whose result for three is bound. -/
def doubled : Expr :=
  .plain .sequence [
    .node .define (some ⟨"DOUBLE"⟩) [.plain .pair [.symbol ⟨"X"⟩, .symbol ⟨"INTEGER"⟩],
      .plain .sequence [.plain .add [.symbol ⟨"X"⟩, .symbol ⟨"X"⟩]]],
    .plain .bind [.symbol ⟨"Y"⟩, .node .call (some ⟨"DOUBLE"⟩) [.constant (.integer 3)]]]

/-- Only one of two interpreters knows the circle's ratio, and both double three alike. -/
theorem unaffected_doubled :
    let left := start { intrinsics := true } '.' []
    let right := start { intrinsics := false } '.' []
    left.world.heap.binds root ⟨"PI"⟩ = true ∧ right.world.heap.binds root ⟨"PI"⟩ = false ∧
      Unaffected left right (left.evaluate mute doubled) (right.evaluate mute doubled) := by
  intro left right
  -- The general law is asked for the root alone, which holds all functions in reach.
  have same := unaffected_evaluation.1 {} '.' []
  have silent : ∀ name ∈ doubled.mentions, ¬IsIntrinsic name := by decide
  have bodies (closure : Closure) (reached : left.world.heap.Reached (· = root) closure) :
      closure.body.Silent IsIntrinsic := by
    -- A new interpreter holds no functions of scripts.
    obtain ⟨frame, name, value, -, found, member⟩ := reached
    exact ((bare_start _ _ (by simp)).values frame name value trivial found closure member).elim
  have loyal := (honest_mute (left.world.heap.Reached (· = root)) left.world.hostCalls.length).loyal
  refine ⟨by decide +kernel, by decide, ?_⟩
  exact ((unaffected_evaluation.2 left right same).2.2 mute (· = root) root doubled rfl silent
    bodies loyal).2

end Interpreter

end Scriptlet

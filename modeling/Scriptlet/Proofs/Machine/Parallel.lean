import Scriptlet.Proofs.Machine.Eval

/-!
Two runs of the same on worlds that agree on all that evaluation reads, in step by design.

A law for two runs of one and the same thing speaks of the worlds alone: functions, frames and
values are the same on both sides.
-/

namespace Scriptlet

open Evaluation Value

/-- If all functions may come up, a function is the same as itself. -/
theorem Function.Match.refl (f : Function) : Function.Match Eq (fun _ => True) f f := by
  -- Functions are compared by what they are, and all are among those that may come up.
  cases f <;> simp [Function.Match]

/-- In which frames what may be evaluated and bound, as far as an evaluation gets to its parts. -/
structure Permission where
  /-- In which frames an expression may be evaluated. -/
  admits : Expr → Nat → Prop
  /-- In which frames a name may be bound. -/
  writes : Name → Nat → Prop
  /-- With an expression, the parts of it that are evaluated may be evaluated. -/
  part : ∀ {operation name children frame child}, admits (.node operation name children) frame →
    operation ≠ .define → child ∈ children → admits child frame
  /-- With a binding, its name may be bound. -/
  target : ∀ {token name rest frame},
    admits (.node .bind token (.symbol name :: rest)) frame → writes name frame
  /-- With a call by name, the function may be looked up. -/
  callee : ∀ {name children frame},
    admits (.node .call (some name) children) frame → admits (.symbol name) frame
  /-- With a definition, its name may be bound. -/
  named : ∀ {name children frame}, admits (.node .define (some name) children) frame →
    writes name frame

/-- Everything may be evaluated and bound in every frame. -/
def Permission.all : Permission where
  admits _ _ := True
  writes _ _ := True
  part _ _ _ := trivial
  target _ := trivial
  callee _ := trivial
  named _ := trivial

/-- How two runs of the same may differ. -/
structure Parallel (left right : Context) extends Permission where
  /-- The failures on the left after which the right side is not looked at any more. -/
  excused : Stop → Prop
  /-- Which worlds correspond while so many calls are under way. -/
  worlds : Nat → World → World → Prop
  /-- Both sides compare with the same tolerance. -/
  tolerance_eq : left.settings.tolerance = right.settings.tolerance
  /-- Both sides write numbers with as many places. -/
  places_eq : left.settings.places = right.settings.places
  /-- Both sides have the same host. -/
  host_eq : left.host = right.host
  /-- Both worlds have the same frames. -/
  heap_eq : ∀ {level world world'}, worlds level world world' → world.heap = world'.heap
  /-- As many functions have been defined in both worlds. -/
  definitions_eq : ∀ {level world world'}, worlds level world world' →
    world.definitions = world'.definitions
  /-- The host has been called alike in both worlds. -/
  hostCalls_eq : ∀ {level world world'}, worlds level world world' →
    world.hostCalls = world'.hostCalls
  /-- Both sides are asked to stop or neither is, unless the left one is excused from stopping. -/
  stops : ∀ {level world world'}, worlds level world world' →
    world.interrupted = world'.interrupted ∨
      (world.interrupted = true ∧ excused (.failed .interrupted))
  /-- Both sides have room for a call or neither has, unless the left one is excused without. -/
  room : ∀ {level world world'}, worlds level world world' →
    left.full? world = right.full? world' ∨
      ∃ limit, left.full? world = some limit ∧ excused (.failed (.tooDeep limit))
  /-- Anything that happens may be written down. -/
  noted : ∀ {level world world'} happening, worlds level world world' →
    worlds level (world.note happening) (world'.note happening)
  /-- Both runs may be asked to stop. -/
  asked : ∀ {level world world'}, worlds level world world' →
    worlds level { world with interrupted := true } { world' with interrupted := true }
  /-- A name that may be bound may be bound to anything. -/
  bind : ∀ {level world world' name frame value}, writes name frame → worlds level world world' →
    worlds level (world.bind frame name value) (world'.bind frame name value)
  /-- Definitions may be counted. -/
  counted : ∀ {level world world'}, worlds level world world' →
    worlds level { world with definitions := world.definitions + 1 }
      { world' with definitions := world'.definitions + 1 }
  /-- Calls may be counted as under way. -/
  deeper : ∀ {level world world'}, worlds level world world' →
    worlds (level + 1) { world with depth := world.depth + 1 }
      { world' with depth := world'.depth + 1 }
  /-- Calls may be left. -/
  leave : ∀ {level world world'}, worlds (level + 1) world world' →
    worlds level (afterCall world) (afterCall world')
  /-- Frames may be put into others. -/
  extend : ∀ {level world world' parent}, worlds level world world' →
    worlds level { world with heap := world.heap.extend parent }
      { world' with heap := world'.heap.extend parent }
  /-- In new frames, anything may be evaluated. -/
  inside : ∀ {level world world' expr}, worlds level world world' → admits expr world.heap.next
  /-- In new frames, anything may be bound. -/
  fresh : ∀ {level world world' name}, worlds level world world' → writes name world.heap.next

namespace Parallel

variable {left right : Context} (parallel : Parallel left right)

/-- What corresponds on the two sides. -/
def relations : Relations where
  excused := parallel.excused
  worlds := parallel.worlds
  closures := Eq
  natives _ := True
  admits expr frame frame' := frame = frame' ∧ parallel.admits expr frame
  writes name frame frame' := frame = frame' ∧ parallel.writes name frame

/-- What evaluation does on one side, it does on the other. -/
theorem simulation : Simulation parallel.relations left right where
  tolerance_eq := parallel.tolerance_eq
  places_eq := parallel.places_eq
  alike same := by
    subst same
    exact ⟨rfl, rfl, rfl, rfl⟩
  one_to_one same same' := by
    subst same same'
    exact Iff.rfl
  part admitted inner member := ⟨admitted.1, parallel.part admitted.2 inner member⟩
  target admitted := ⟨admitted.1, parallel.target admitted.2⟩
  callee admitted := ⟨admitted.1, parallel.callee admitted.2⟩
  named admitted := ⟨admitted.1, parallel.named admitted.2⟩
  noted happening _ both := parallel.noted happening both
  stops both := parallel.stops both
  room both := parallel.room both
  lookup {level world world' name frame frame'} admitted both := by
    obtain ⟨rfl, -⟩ := admitted
    rw [← parallel.heap_eq both]
    cases world.heap.lookup frame name with
    | none => exact .none
    | some value => exact .some (Match.refl Function.Match.refl value)
  binds_eq admitted both := by
    obtain ⟨rfl, -⟩ := admitted
    rw [parallel.heap_eq both]
  bind {level world world' name frame frame' value value'} admitted same both := by
    obtain ⟨rfl, may⟩ := admitted
    -- Equal functions make for equal values.
    rw [← Match.eq value value' (fun _ _ _ => id) same]
    exact parallel.bind may both
  define admitted _ _ _ both := by
    obtain ⟨rfl, -⟩ := admitted
    rw [parallel.definitions_eq both]
    rfl
  counted both := parallel.counted both
  enter {level world world' function function' arguments arguments'} same sames both := by
    have equal := Match.eq (.function function) (.function function') (fun _ _ _ => id) same
    rw [← Value.function.inj equal, ← MatchAll.eq _ _ (fun _ _ _ => id) sames]
    exact parallel.noted _ (parallel.deeper both)
  leave both := parallel.leave both
  extend same both := by
    subst same
    exact parallel.extend both
  inside same both := by
    subst same
    have next := congrArg Heap.next (parallel.heap_eq both)
    exact ⟨⟨next, parallel.inside both⟩, fun _ _ => ⟨next, parallel.fresh both⟩⟩
  asked _ both := parallel.asked both
  host _ sames both := by
    -- One host that is asked the same after the same calls gives one answer.
    rw [← MatchAll.eq _ _ (fun _ _ _ => id) sames, ← parallel.hostCalls_eq both, parallel.host_eq]
    exact ⟨rfl, .refl fun value _ => Match.refl Function.Match.refl value⟩

/-- Two evaluations in step end alike in corresponding worlds, or the left one is excused. -/
theorem ends {level : Nat} {first second : Evaluation Value}
    (kept : parallel.relations.Keeps level (Match parallel.relations.functions) first second)
    {world world' : World} (both : parallel.worlds level world world') :
    (∃ stop, first.outcome world = .error stop ∧ parallel.excused stop) ∨
      (first.outcome world = second.outcome world' ∧
        parallel.worlds level (first.after world) (second.after world')) := by
  -- Values in step are equal here, so that the outcomes are.
  refine (kept.ends both).imp_right fun ended => ⟨?_, ended.2⟩
  exact ended.1.eq fun value value' same => Match.eq value value' (fun _ _ _ => id) same

variable {frame : Nat} {expr : Expr}

/-- Evaluating an expression is in step. -/
theorem eval_keeps (level steps : Nat) (admitted : parallel.admits expr frame) :
    parallel.relations.Keeps level (Match parallel.relations.functions)
      (eval left steps expr frame) (eval right steps expr frame) :=
  parallel.simulation.eval_keeps steps level expr frame frame ⟨rfl, admitted⟩

/-- Evaluating an expression is in step if its shape is checked first. -/
theorem checked_keeps (level steps : Nat) (admitted : parallel.admits expr frame) :
    parallel.relations.Keeps level (Match parallel.relations.functions)
      (do ofShape expr.validate; eval left steps expr frame)
      (do ofShape expr.validate; eval right steps expr frame) :=
  InStep.bind (parallel.simulation.ofShape expr.validate) fun _ _ _ =>
    parallel.eval_keeps level steps admitted

/-- Calling a function is in step. -/
theorem call_keeps (level steps : Nat) (function : Function) (arguments : List Value) :
    parallel.relations.Keeps level (Match parallel.relations.functions)
      (call left (eval left steps) function arguments)
      (call right (eval right steps) function arguments) :=
  parallel.simulation.call_keeps (parallel.simulation.eval_keeps steps)
    (Function.Match.refl function) (MatchAll.refl Function.Match.refl arguments)

/-- Two runs of the same from one world, in contexts that differ in the room for calls at most. -/
def equal (left right : Context) (excused : Stop → Prop)
    (tolerance_eq : left.settings.tolerance = right.settings.tolerance)
    (places_eq : left.settings.places = right.settings.places) (host_eq : left.host = right.host)
    (room : ∀ world, left.full? world = right.full? world ∨
      ∃ limit, left.full? world = some limit ∧ excused (.failed (.tooDeep limit))) :
    Parallel left right where
  excused := excused
  worlds _ := Eq
  toPermission := .all
  tolerance_eq := tolerance_eq
  places_eq := places_eq
  host_eq := host_eq
  heap_eq same := congrArg World.heap same
  definitions_eq same := congrArg World.definitions same
  hostCalls_eq same := congrArg World.hostCalls same
  stops same := .inl (congrArg World.interrupted same)
  room {_ world _} same := by
    subst same
    exact room world
  noted happening same := congrArg (·.note happening) same
  asked same := congrArg (fun world : World => { world with interrupted := true }) same
  bind {_ _ _ name frame value} _ same := congrArg (·.bind frame name value) same
  counted same :=
    congrArg (fun world : World => { world with definitions := world.definitions + 1 }) same
  deeper same := congrArg (fun world : World => { world with depth := world.depth + 1 }) same
  leave same := congrArg afterCall same
  extend {_ _ _ parent} same :=
    congrArg (fun world : World => { world with heap := world.heap.extend parent }) same
  inside _ := trivial
  fresh _ := trivial

end Parallel

end Scriptlet

import Scriptlet.Proofs.Machine.Fulfilment
import Scriptlet.Proofs.Machine.Isolation

/-!
Expressions whose shape has been checked do not turn out to be out of shape later.

Main statement: evaluation of a checked expression finds fault with no shape but for pairs outside
of selections and for unknown types, as long as all functions that can be reached are checked as
well; and then they still are afterwards, whether the evaluation fails or not.
-/

namespace Scriptlet

open Evaluation Value

namespace Expr

/-- Whether an expression has been checked, and has no flaws but those that are allowed. -/
structure Sound (allowed : ShapeError → Prop) (expr : Expr) : Prop where
  /-- It passes the check of shapes. -/
  valid : expr.validate = .ok ()
  /-- What may still be wrong with it is allowed. -/
  flaws : ∀ error, expr.Flaw error → allowed error

variable {allowed : ShapeError → Prop} {operation : Operation} {name : Option Name}
  {children : List Expr} {child : Expr}

/-- A name has no shape. -/
theorem Sound.symbol (name : Name) : (symbol name).Sound allowed where
  valid := rfl
  flaws error flaw := by cases flaw

/-- The children of a sound node are sound, unless the node takes them apart. -/
theorem Sound.part (sound : (node operation name children).Sound allowed)
    (inner : operation.takesApart = false) (member : child ∈ children) : child.Sound allowed where
  valid := (validate_node_iff.mp sound.valid).2 child member
  flaws error flaw := sound.flaws error (.part inner member flaw)

/-- The children of the arms of a sound selection are sound. -/
theorem Sound.arm {token : Option Name} {branches : List Expr}
    (sound : (node .select name children).Sound allowed)
    (member : node .pair token branches ∈ children) (inside : child ∈ branches) :
    child.Sound allowed where
  valid :=
    (validate_node_iff.mp ((validate_node_iff.mp sound.valid).2 _ member)).2 child inside
  flaws error flaw := sound.flaws error (.arm member inside flaw)

/-- The body of a sound definition is sound. -/
theorem Sound.body {parts : Definition} (sound : (node .define name children).Sound allowed)
    (shaped : definition .define children = .ok parts) : parts.body.Sound allowed where
  valid := by
    have member := List.mem_of_getLast? (definition_eq_ok shaped).1
    exact (validate_node_iff.mp sound.valid).2 parts.body member
  flaws error flaw := sound.flaws error (.body shaped flaw)

end Expr

/-- Whether an evaluation that has stopped for the shape of a node did so for an allowed one. -/
def Stop.ShapeAllowed (allowed : ShapeError → Prop) : Stop → Prop
  | .failed (.badShape error) => allowed error
  | _ => True

/-- Other failures than those for a shape are all allowed. -/
theorem Stop.shapeAllowed_of_ne {allowed : ShapeError → Prop} {error : EvalError}
    (other : ∀ shape, error ≠ .badShape shape) : (Stop.failed error).ShapeAllowed allowed := by
  -- Only one kind of failure is for a shape.
  cases error
  case badShape shape => exact absurd rfl (other shape)
  all_goals trivial

/-- Whether a function was defined in a region of frames and has a sound body. -/
def Closure.SoundIn (region : Nat → Prop) (allowed : ShapeError → Prop) (closure : Closure) :
    Prop :=
  region closure.frame ∧ closure.body.Sound allowed

/-- Whether a world holds nothing but fit functions in a region, since a certain start. -/
structure World.Sound (region : Nat → Prop) (fit : Closure → Prop) (start world : World) :
    Prop where
  /-- All frames are older or new. -/
  older : start.heap.next ≤ world.heap.next
  /-- Nothing leads out of the region. -/
  closed : world.heap.Closed region
  /-- What is bound in the region is fit. -/
  values : world.heap.FitWithin region fit
  /-- What the host was told is fit. -/
  tells : world.TellsFit fit start.hostCalls

section Soundness

variable {region : Nat → Prop} {allowed : ShapeError → Prop} {start : World} {context : Context}

/-- Only sound functions come up, and only allowed errors of shape. -/
def soundness (region : Nat → Prop) (allowed : ShapeError → Prop) (start : World) :
    Conditions where
  running _ := World.Sound region (Closure.SoundIn region allowed) start
  stopped _ stop world := stop.ShapeAllowed allowed ∧
    World.Sound region (Closure.SoundIn region allowed) start world
  admits expr frame := region frame ∧ expr.Sound allowed
  writes _ frame := region frame
  fit := Closure.SoundIn region allowed

/-- A world is sound at the start if all functions that can be reached are fit. -/
theorem World.sound_of_reached {world : World} {roots : Nat → Prop} {fit : Closure → Prop}
    (trusted : ∀ closure, world.heap.Reached roots closure → fit closure) :
    World.Sound (world.heap.scope roots) fit world world := by
  -- What is bound in the region is bound in a frame that can be reached, or not at all.
  refine ⟨Nat.le_refl _, Heap.closed_scope _ _, ?_, [], rfl, nofun⟩
  intro holder name value held found closure member
  rcases held with holding | new
  · exact trusted closure ⟨holder, name, value, holding, found, member⟩
  · rw [Heap.find?_of_next_le _ name new] at found
    cases found

/-- A world stays sound when something happens that is no call. -/
theorem World.Sound.note {fit : Closure → Prop} {world : World}
    (sound : World.Sound region fit start world) {happening : Happening}
    (quiet : ∀ function arguments, happening ≠ .entered function arguments) :
    World.Sound region fit start (world.note happening) :=
  ⟨sound.older, sound.closed, sound.values, sound.tells.note quiet⟩

/-- A world stays sound when a call is left. -/
theorem World.Sound.afterCall {fit : Closure → Prop} {world : World}
    (sound : World.Sound region fit start world) :
    World.Sound region fit start (afterCall world) := by
  -- To leave a call is to count it off and to write that down.
  have back : World.Sound region fit start { world with depth := world.depth - 1 } :=
    ⟨sound.older, sound.closed, sound.values, sound.tells⟩
  exact back.note (by simp)

/-- A world stays sound when the host is told fit arguments, whatever it answers. -/
theorem World.Sound.ask {fit : Closure → Prop} {world : World}
    (sound : World.Sound region fit start world) {function : HostFunction}
    {arguments : List Value} (fits : AllFit fit arguments) (reply : HostReply) :
    World.Sound region fit start ((world.enter (.host function) arguments).heed reply) :=
  ⟨sound.older, sound.closed, sound.values, World.TellsFit.enter sound.tells (.host function) fits⟩

/-- A world stays sound when something fit is bound. -/
theorem World.Sound.bind {fit : Closure → Prop} {world : World} {value : Value}
    (sound : World.Sound region fit start world)
    (within : ∀ closure, fit closure → region closure.frame) (fits : Fits fit value) (frame : Nat)
    (name : Name) : World.Sound region fit start (world.bind frame name value) := by
  -- What is fit was defined in the region, so the region stays closed.
  refine ⟨?_, ?_, ?_, sound.tells.bind frame name value⟩
  · simpa using sound.older
  · rw [World.heap_bind]
    exact sound.closed.bind fun closure member => within closure (fits closure member)
  · rw [World.heap_bind]
    exact sound.values.bind fits

/-- A world stays sound when a frame is put into one of the region. -/
theorem World.Sound.extend {fit : Closure → Prop} {world : World} {frame : Nat}
    (sound : World.Sound region fit start world) (inside : region frame) :
    World.Sound region fit start { world with heap := world.heap.extend frame } := by
  -- The new frame is empty, and lies in the region.
  refine ⟨?_, sound.closed.extend inside, sound.values.extend, sound.tells⟩
  rw [Heap.next_extend]
  exact Nat.le_succ_of_le sound.older

/-- What is found in the region of a sound world is fit. -/
theorem World.Sound.lookup {fit : Closure → Prop} {world : World} {frame : Nat} {name : Name}
    {value : Value} (sound : World.Sound region fit start world) (inside : region frame)
    (found : world.heap.lookup frame name = some value) : Fits fit value := by
  -- The search stays within the region, where all is fit.
  obtain ⟨holder, reached, here⟩ := sound.closed.find?_of_lookup inside found
  exact sound.values holder _ _ reached here

/-- Evaluation with an honest host brings up only what is sound, if the host knows nothing else. -/
theorem soundness_contract {known : Closure → Prop}
    (honest : context.host.Honest known start.hostCalls.length)
    (trusted : ∀ closure, known closure → closure.SoundIn region allowed)
    (later : ∀ frame, start.heap.next ≤ frame → region frame) :
    Contract (soundness region allowed start) context where
  part admitted inner member := ⟨admitted.1, admitted.2.part inner member⟩
  arm admitted member inside := ⟨admitted.1, admitted.2.arm member inside⟩
  target admitted := admitted.1
  callee admitted := ⟨admitted.1, .symbol _⟩
  named admitted := admitted.1
  failed plain sound := by
    refine ⟨Stop.shapeAllowed_of_ne fun shape same => ?_, sound.note (by simp)⟩
    subst same
    exact plain
  -- What has been checked can only be at fault by one of its flaws, and these are allowed.
  misshapen admitted misshapen _ := absurd admitted.2.valid misshapen
  strayPair admitted sound := ⟨admitted.2.flaws _ .strayPair, sound.note (by simp)⟩
  unknownType admitted shaped member unknown sound :=
    ⟨admitted.2.flaws _ (.unknownType shaped member unknown), sound.note (by simp)⟩
  interrupted sound _ := ⟨trivial, World.Sound.note (sound.note (by simp)) (by simp)⟩
  polled sound _ := sound.note (by simp)
  tested sound _ := sound.note (by simp)
  tooDeep sound _ _ := ⟨trivial, World.Sound.note (sound.note (by simp)) (by simp)⟩
  exhausted sound := ⟨trivial, sound⟩
  lookup admitted sound found := sound.lookup admitted.1 found
  bind {level world name frame value} _ fits sound :=
    sound.bind (fun _ known => known.1) fits frame name
  define admitted shaped _ _ _ := ⟨admitted.1, admitted.2.body shaped⟩
  counted sound := ⟨sound.older, sound.closed, sound.values, sound.tells⟩
  enter {level world function arguments} _ _ fits sound _ _ :=
    ⟨sound.older, sound.closed, sound.values, World.TellsFit.enter sound.tells function fits⟩
  answered {level world function arguments value} fits sound _ _ answered :=
    ⟨honest.loyal.fits trusted (World.TellsFit.enter sound.tells (.host function) fits) fits
        answered,
      World.Sound.ask sound fits _⟩
  refused {level world function arguments error} fits sound _ _ refused := by
    refine ⟨Stop.shapeAllowed_of_ne fun shape same => ?_,
      (World.Sound.ask sound fits _).note (by simp)⟩
    subst same
    exact honest.errors refused
  leave sound := sound.afterCall
  abandon stopped := ⟨stopped.1, stopped.2.afterCall⟩
  extend known sound := sound.extend known.1
  inside known sound :=
    ⟨⟨later _ sound.older, known.2⟩, fun _ _ => later _ sound.older⟩

end Soundness

namespace Heap

/-- Whether an error of shape is a flaw of an expression or of a function that can be reached. -/
def Flaw (heap : Heap) (roots : Nat → Prop) (expr : Expr) (error : ShapeError) : Prop :=
  expr.Flaw error ∨ ∃ closure, heap.Reached roots closure ∧ closure.body.Flaw error

variable {heap : Heap} {roots : Nat → Prop} {expr : Expr} {error : ShapeError}

/-- Every flaw is one of those that only evaluation finds. -/
theorem Flaw.late (flaw : heap.Flaw roots expr error) : error.Late := by
  -- A flaw of either kind is found late.
  rcases flaw with flaw | ⟨closure, reached, flaw⟩
  · exact Expr.Flaw.late flaw
  · exact Expr.Flaw.late flaw

/-- Whether all functions that can be reached have been checked. -/
def Validated (heap : Heap) (roots : Nat → Prop) : Prop :=
  ∀ closure, heap.Reached roots closure → closure.body.validate = .ok ()

end Heap

namespace Interpreter

variable {interpreter : Interpreter} {host : Host} {roots : Nat → Prop} {expr : Expr}

/-- Whether an evaluation finds fault only with allowed shapes and leaves all functions checked. -/
structure EndsValid (roots : Nat → Prop) (allowed : ShapeError → Prop)
    (ended : Except Stop Value × Interpreter) : Prop where
  /-- Nodes that are out of shape in another way are not come upon. -/
  failure : ∀ error, ended.1 = .error (.failed (.badShape error)) → allowed error
  /-- The functions in the result have been checked. -/
  result : ∀ value, ended.1 = .ok value →
    ∀ closure ∈ value.closures, closure.body.validate = .ok ()
  /-- The functions that can be reached afterwards have been checked. -/
  bodies : ended.2.world.heap.Validated roots

/-- More may be allowed. -/
theorem EndsValid.imp {allowed weaker : ShapeError → Prop}
    {ended : Except Stop Value × Interpreter} (ends : EndsValid roots allowed ended)
    (implies : ∀ error, allowed error → weaker error) : EndsValid roots weaker ended where
  failure error failed := implies error (ends.failure error failed)
  result := ends.result
  bodies := ends.bodies

/-- What leaves a world sound ends as it should. -/
theorem endsValid_of_meets {allowed : ShapeError → Prop} {evaluation : Evaluation Value}
    (sound : World.Sound (interpreter.world.heap.scope roots)
      (Closure.SoundIn (interpreter.world.heap.scope roots) allowed) interpreter.world
      interpreter.world)
    (meets : (soundness (interpreter.world.heap.scope roots) allowed interpreter.world).Meets 0
      (Fits (Closure.SoundIn (interpreter.world.heap.scope roots) allowed)) evaluation) :
    EndsValid roots allowed (interpreter.perform evaluation) := by
  -- What can be reached from the same roots is in the region, which nothing leads out of.
  have validated (after : World) (kept : World.Sound (interpreter.world.heap.scope roots)
      (Closure.SoundIn (interpreter.world.heap.scope roots) allowed) interpreter.world after) :
      after.heap.Validated roots := by
    rintro closure ⟨holder, name, value, reached, found, member⟩
    have inside := kept.closed.of_reaches (fun _ start => .inl (.root start)) reached
    exact (kept.values holder name value inside found closure member).2.valid
  have ended := meets interpreter.world sound
  unfold perform
  cases run : evaluation interpreter.world with
  | ok value after =>
    rw [run] at ended
    refine ⟨nofun, fun value' same closure member => ?_, validated after ended.2⟩
    cases same
    exact (ended.1 closure member).2.valid
  | error stop after =>
    rw [run] at ended
    refine ⟨fun error same => ?_, nofun, validated after ended.2⟩
    cases same
    exact ended.1

/-- What a checked expression may fail for is a flaw of it or of a function that can be reached. -/
theorem endsValid_eval (roots : Nat → Prop) (frame : Nat) (inside : roots frame)
    (valid : expr.validate = .ok ())
    (bodies : interpreter.world.heap.Validated roots)
    (honest : host.Honest (interpreter.world.heap.Reached roots)
      interpreter.world.hostCalls.length) :
    (∀ steps, EndsValid roots (interpreter.world.heap.Flaw roots expr)
      (interpreter.perform (eval (interpreter.context host) steps expr frame))) ∧
    EndsValid roots (interpreter.world.heap.Flaw roots expr)
      (interpreter.evalIn host expr frame) := by
  -- Functions that can be reached are sound, as their own flaws are among those that are allowed.
  have trusted (closure : Closure) (reached : interpreter.world.heap.Reached roots closure) :
      closure.SoundIn (interpreter.world.heap.scope roots)
        (interpreter.world.heap.Flaw roots expr) :=
    ⟨reached.scope, bodies closure reached, fun error flaw => .inr ⟨closure, reached, flaw⟩⟩
  have sound := World.sound_of_reached trusted
  have contract : Contract (soundness (interpreter.world.heap.scope roots)
      (interpreter.world.heap.Flaw roots expr) interpreter.world) (interpreter.context host) :=
    soundness_contract honest trusted fun _ new => .inr new
  have meets (steps : Nat) := contract.eval_meets steps 0 expr frame
    ⟨.inl (.root inside), valid, fun error flaw => .inl flaw⟩
  refine ⟨fun steps => endsValid_of_meets sound (meets steps), ?_⟩
  -- The check in front of the evaluation is known to pass.
  have checked : (do ofShape expr.validate; eval (interpreter.context host) steps expr frame) =
      eval (interpreter.context host) steps expr frame := by
    rw [valid]
    rfl
  rw [evalIn, checked]
  exact endsValid_of_meets sound (meets steps)

/-- A checked binding fails exactly where its value fails to be evaluated, and for that reason. -/
theorem evalBind_eq_error_iff {token : Option Name} {children : List Expr}
    (valid : (Expr.node .bind token children).validate = .ok ()) (self : Evaluator) (frame : Nat)
    (world : World) : ∃ target value, children = [.symbol target, value] ∧
      ∀ stop after, evalBind self frame children world = .error stop after ↔
        self value frame world = .error stop after := by
  obtain ⟨target, value, rfl⟩ := (Expr.validate_node_iff.mp valid).1.target rfl
  -- The name is found where the frame binds it already, and is bound otherwise; neither can fail.
  have rest (found : Value) : Triple (fun _ => True)
      (do
        if (← get).heap.binds frame target then Evaluation.lookup frame target
        else
          Evaluation.bind frame target found
          return found) (fun _ _ => True) (fun _ _ => False) := by
    refine .get_bind fun world _ => ?_
    split
    case isTrue bound =>
      refine .get_bind fun after here => ?_
      subst here
      obtain ⟨kept, there⟩ := Option.isSome_iff_exists.mp bound
      have known : after.heap.lookup frame target = some kept := by rw [Heap.lookup, there]
      rw [known]
      exact .pure fun _ _ => trivial
    case isFalse =>
      have bound : Triple (· = world) (Evaluation.bind frame target found) (fun _ _ => True)
          (fun _ _ => False) := .modify fun _ _ => trivial
      exact bound.bind fun _ => .pure fun _ _ => trivial
  refine ⟨target, value, rfl, fun stop after => ?_⟩
  change EStateM.bind (self value frame) _ world = _ ↔ _
  unfold EStateM.bind
  cases run : self value frame world with
  | error stop' after' => rfl
  | ok found after' =>
    constructor
    · intro failed
      exact (((rest found).ends trivial).2 stop after failed).elim
    · intro failed
      cases failed

/--
A checked expression is not found out of shape, unless for a stray pair or for an unknown type.

This takes that all functions have been checked that can be reached from the frame, or from others
besides, and that the host adds no other functions and no such errors. All functions that can be
reached afterwards are then checked as well, even if the evaluation has failed.
In particular a binding raises no error of its own; it fails where the evaluation of its value does.
-/
theorem validated_evaluation (interpreter : Interpreter) (host : Host) (roots : Nat → Prop)
    (frame : Nat) (expr : Expr) (inside : roots frame) (valid : expr.validate = .ok ())
    (bodies : interpreter.world.heap.Validated roots)
    (honest : host.Honest (interpreter.world.heap.Reached roots)
      interpreter.world.hostCalls.length) :
    (∀ steps, EndsValid roots
      (fun error => interpreter.world.heap.Flaw roots expr error ∧ error.Late)
      (interpreter.perform (eval (interpreter.context host) steps expr frame))) ∧
    EndsValid roots
      (fun error => interpreter.world.heap.Flaw roots expr error ∧ error.Late)
      (interpreter.evalIn host expr frame) ∧
    ∀ (token : Option Name) (children : List Expr),
      (Expr.node .bind token children).validate = .ok () →
        ∀ (self : Evaluator) (place : Nat) (world : World), ∃ target value,
          children = [.symbol target, value] ∧
            ∀ stop after, evalBind self place children world = .error stop after ↔
              self value place world = .error stop after := by
  -- What is allowed are flaws, and every flaw is found late.
  obtain ⟨performed, evaluated⟩ := endsValid_eval roots frame inside valid bodies honest
  have late (error : ShapeError) (flaw : interpreter.world.heap.Flaw roots expr error) :
      interpreter.world.heap.Flaw roots expr error ∧ error.Late := ⟨flaw, flaw.late⟩
  refine ⟨fun steps => (performed steps).imp late, evaluated.imp late, ?_⟩
  exact fun token children checked => evalBind_eq_error_iff checked

/-- A sequence that calls a function for a binding, and then defines one of an unknown type. -/
def lateFault : Expr :=
  .plain .sequence [
    .plain .bind [.symbol ⟨"Y"⟩,
      .plain .call [.plain .define [.plain .sequence [.constant (.integer 1)]]]],
    .plain .define [.plain .pair [.symbol ⟨"X"⟩, .symbol ⟨"MATRIX"⟩],
      .plain .sequence [.symbol ⟨"X"⟩]]]

/-- A host that only answers with the empty list adds nothing of its own. -/
theorem honest_mute (known : Closure → Prop) (age : Nat) : mute.Honest known age := by
  -- The list holds no functions.
  refine ⟨fun {earlier call value} answered closure member => ?_, nofun⟩
  cases answered
  cases member

/-- The call is all right, as is the binding, and the definition is the one to fail. -/
theorem validated_evaluation_lateFault :
    ((nested []).evalIn mute lateFault 0).1 =
        .error (.failed (.badShape ⟨.define, .unknownType ⟨"MATRIX"⟩⟩)) ∧
      EndsValid (· = 0)
        (fun error => (nested []).world.heap.Flaw (· = 0) lateFault error ∧ error.Late)
        ((nested []).evalIn mute lateFault 0) := by
  -- A function that can be reached is bound in the outermost frame.
  have bodies : (nested []).world.heap.Validated (· = 0) := by
    rintro closure ⟨frame, name, value, reached, found, member⟩
    have outermost : frame = 0 := (closed_nested []).of_reaches (fun _ => id) reached
    subst outermost
    -- The only function in reach is the one that looks a name up.
    rcases eq_of_find?_nested found with rfl | rfl
    · cases member
    · rw [closures, List.mem_singleton] at member
      rw [member]
      rfl
  have honest := honest_mute ((nested []).world.heap.Reached (· = 0)) 0
  exact ⟨rfl, (validated_evaluation (nested []) mute (· = 0) 0 lateFault rfl rfl bodies honest).2.1⟩

end Interpreter

end Scriptlet

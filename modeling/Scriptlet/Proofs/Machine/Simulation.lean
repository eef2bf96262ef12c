import Scriptlet.Machine.Eval
import Scriptlet.Proofs.Machine.Admission
import Scriptlet.Proofs.Machine.InStep
import Scriptlet.Proofs.Value.Match

/-!
Simulations: the same expression evaluated on two sides that differ in what a relation allows.

A simulation says of each single thing that evaluation does to a world that its relations are kept.
-/

namespace Scriptlet

open Evaluation Value

/-- What corresponds to what on the two sides. -/
structure Relations where
  /-- The failures on the left after which the right side is not looked at any more. -/
  excused : Stop → Prop
  /-- Which worlds correspond while so many calls are under way. -/
  worlds : Nat → World → World → Prop
  /-- Which functions of scripts correspond. -/
  closures : Closure → Closure → Prop
  /-- Which other functions may come up. -/
  natives : Function → Prop
  /-- In which frames an expression may be evaluated. -/
  admits : Expr → Nat → Nat → Prop
  /-- In which frames a name may be bound. -/
  writes : Name → Nat → Nat → Prop

namespace Relations

/-- Which functions correspond. -/
def functions (relations : Relations) : Function → Function → Prop :=
  Function.Match relations.closures relations.natives

/-- Whether two evaluations are in step while so many calls are under way. -/
def Keeps {α β : Type} (relations : Relations) (level : Nat) (related : α → β → Prop)
    (left : Evaluation α) (right : Evaluation β) : Prop :=
  InStep relations.excused (relations.worlds level) related left right

/-- Whether two ways to evaluate are in step on all that may be evaluated. -/
def KeepsAll (relations : Relations) (left right : Evaluator) : Prop :=
  ∀ level expr frame frame', relations.admits expr frame frame' →
    relations.Keeps level (Match relations.functions) (left expr frame) (right expr frame')

end Relations

/-- Relations that are kept by every single thing that evaluation does. -/
structure Simulation (relations : Relations) (left right : Context) : Prop where
  /-- Both sides compare with the same tolerance. -/
  tolerance_eq : left.settings.tolerance = right.settings.tolerance
  /-- Both sides write numbers with as many places. -/
  places_eq : left.settings.places = right.settings.places
  /-- Corresponding functions differ at most in their identities and their frames. -/
  alike : ∀ {c c' : Closure}, relations.closures c c' →
    c.name = c'.name ∧ c.params = c'.params ∧ c.returnType = c'.returnType ∧ c.body = c'.body
  /-- Functions are the same exactly where their counterparts are. -/
  one_to_one : ∀ {c c' d d' : Closure}, relations.closures c c' → relations.closures d d' →
    (c = d ↔ c' = d')
  /-- With an expression, the parts of it that are evaluated may be evaluated. -/
  part : ∀ {operation name children frame frame' child},
    relations.admits (.node operation name children) frame frame' → operation ≠ .define →
      child ∈ children → relations.admits child frame frame'
  /-- With a binding, its name may be bound. -/
  target : ∀ {token name rest frame frame'},
    relations.admits (.node .bind token (.symbol name :: rest)) frame frame' →
      relations.writes name frame frame'
  /-- With a call by name, the function may be looked up. -/
  callee : ∀ {name children frame frame'},
    relations.admits (.node .call (some name) children) frame frame' →
      relations.admits (.symbol name) frame frame'
  /-- With a definition, its name may be bound. -/
  named : ∀ {name children frame frame'},
    relations.admits (.node .define (some name) children) frame frame' →
      relations.writes name frame frame'
  /-- What happens on both sides may be written down, calls aside. -/
  noted : ∀ {level world world'} happening,
    (∀ function arguments, happening ≠ .entered function arguments) →
      relations.worlds level world world' →
        relations.worlds level (world.note happening) (world'.note happening)
  /-- Both sides are asked to stop or neither is, unless the left one is excused from stopping. -/
  stops : ∀ {level world world'}, relations.worlds level world world' →
    world.interrupted = world'.interrupted ∨
      (world.interrupted = true ∧ relations.excused (.failed .interrupted))
  /-- Both sides have room for a call or neither has, unless the left one is excused without. -/
  room : ∀ {level world world'}, relations.worlds level world world' →
    left.full? world = right.full? world' ∨
      ∃ limit, left.full? world = some limit ∧ relations.excused (.failed (.tooDeep limit))
  /-- A name has corresponding values, or none on both sides. -/
  lookup : ∀ {level world world' name frame frame'}, relations.admits (.symbol name) frame frame' →
    relations.worlds level world world' →
      Option.Rel (Match relations.functions) (world.heap.lookup frame name)
        (world'.heap.lookup frame' name)
  /-- A name that may be bound is bound already on both sides or on neither. -/
  binds_eq : ∀ {level world world' name frame frame'}, relations.writes name frame frame' →
    relations.worlds level world world' →
      world.heap.binds frame name = world'.heap.binds frame' name
  /-- A name that may be bound may be bound to corresponding values. -/
  bind : ∀ {level world world' name frame frame' value value'}, relations.writes name frame frame' →
    Match relations.functions value value' → relations.worlds level world world' →
      relations.worlds level (world.bind frame name value) (world'.bind frame' name value')
  /-- A definition makes corresponding functions. -/
  define : ∀ {level world world' name children frame frame' parts params returnType},
    relations.admits (.node .define name children) frame frame' →
    Expr.definition .define children = .ok parts → resolveParams parts.params = .ok params →
    resolveReturn parts.returnType = .ok returnType → relations.worlds level world world' →
      relations.closures ⟨world.definitions, name, params, returnType, parts.body, frame⟩
        ⟨world'.definitions, name, params, returnType, parts.body, frame'⟩
  /-- Definitions may be counted. -/
  counted : ∀ {level world world'}, relations.worlds level world world' →
    relations.worlds level { world with definitions := world.definitions + 1 }
      { world' with definitions := world'.definitions + 1 }
  /-- Corresponding functions may be entered with corresponding arguments. -/
  enter : ∀ {level world world' function function' arguments arguments'},
    relations.functions function function' →
    MatchAll relations.functions arguments arguments' → relations.worlds level world world' →
      relations.worlds (level + 1) (world.enter function arguments)
        (world'.enter function' arguments')
  /-- Calls may be left. -/
  leave : ∀ {level world world'}, relations.worlds (level + 1) world world' →
    relations.worlds level (afterCall world) (afterCall world')
  /-- Frames may be put into the frames of corresponding functions. -/
  extend : ∀ {level world world'} {c c' : Closure}, relations.closures c c' →
    relations.worlds level world world' →
      relations.worlds level { world with heap := world.heap.extend c.frame }
      { world' with heap := world'.heap.extend c'.frame }
  /-- In new frames, a function's parameters may be bound and its body may be evaluated. -/
  inside : ∀ {level world world'} {c c' : Closure}, relations.closures c c' →
    relations.worlds level world world' →
      relations.admits c.body world.heap.next world'.heap.next ∧
        ∀ param ∈ c.params, relations.writes param.1 world.heap.next world'.heap.next
  /-- Both runs may be asked to stop by a function of the host. -/
  asked : ∀ {level world world' function}, relations.natives (.host function) →
    relations.worlds level world world' →
      relations.worlds level { world with interrupted := true } { world' with interrupted := true }
  /-- The host answers corresponding calls correspondingly. -/
  host : ∀ {level world world' function arguments arguments'}, relations.natives (.host function) →
    MatchAll relations.functions arguments arguments' → relations.worlds level world world' →
      (left.host world.hostCalls.tail ⟨function, arguments⟩).interrupts =
          (right.host world'.hostCalls.tail ⟨function, arguments'⟩).interrupts ∧
        Alike (Match relations.functions)
          (left.host world.hostCalls.tail ⟨function, arguments⟩).result
          (right.host world'.hostCalls.tail ⟨function, arguments'⟩).result

namespace Simulation

variable {relations : Relations} {left right : Context}
  (simulation : Simulation relations left right) {level frame frame' : Nat} {self self' : Evaluator}

include simulation

/-- Functions are the same exactly where their counterparts are. -/
theorem faithful : Faithful relations.functions := by
  intro f f' g g' first second
  -- Functions of different kinds differ on both sides, and only those of scripts need the law.
  cases f <;> cases f' <;> simp only [Relations.functions, Function.Match] at first <;>
    cases g <;> cases g' <;> simp only [Relations.functions, Function.Match] at second <;>
    simp only [reduceCtorEq, Function.closure.injEq, Function.builtin.injEq, Function.host.injEq]
  case closure.closure.closure.closure => exact simulation.one_to_one first second
  all_goals rw [first.1, second.1]

/-- Corresponding functions show the same name, the same parameters and the same return type. -/
theorem face_eq {function function' : Function}
    (same : relations.functions function function') :
    function.displayName = function'.displayName ∧ function.params = function'.params ∧
      function.returnType = function'.returnType := by
  -- The face of a function is copied from its definition, or is fixed for its kind.
  cases function <;> cases function' <;>
    simp only [Relations.functions, Function.Match] at same
  case closure.closure =>
    -- What is shown of a function does not tell its number or its frame.
    obtain ⟨name, params, returnType, -⟩ := simulation.alike same
    simp [Function.displayName, Function.name?, Function.params, Function.returnType, name, params,
      returnType]
  all_goals
    obtain ⟨rfl, -⟩ := same
    exact ⟨rfl, rfl, rfl⟩

/-- The same error may be raised on both sides. -/
theorem raise {α β : Type} {related : α → β → Prop} (error : EvalError) :
    relations.Keeps level related (Evaluation.raise error) (Evaluation.raise error) :=
  InStep.raise (fun error _ _ => simulation.noted (.raised error) (by simp)) error

/-- Related outcomes may be taken over on both sides. -/
theorem ofExcept {α β : Type} {related : α → β → Prop} {outcome : Except EvalError α}
    {outcome' : Except EvalError β} (same : Alike related outcome outcome') :
    relations.Keeps level related (Evaluation.ofExcept outcome) (Evaluation.ofExcept outcome') :=
  InStep.ofExcept (fun error _ _ => simulation.noted (.raised error) (by simp)) same

/-- The same look at a node's shape may be taken on both sides. -/
theorem ofShape {α : Type} (shape : Except ShapeError α) :
    relations.Keeps level (fun found found' => found = found' ∧ shape = .ok found)
      (Evaluation.ofShape shape) (Evaluation.ofShape shape) :=
  InStep.ofShape (fun error _ _ => simulation.noted (.raised error) (by simp)) shape

/-- Asking whether to stop is in step. -/
theorem poll_keeps : relations.Keeps level (fun _ _ => True) poll poll := by
  refine InStep.bind (InStep.modify fun _ _ => simulation.noted .polled (by simp)) fun _ _ _ => ?_
  refine InStep.get_bind fun world world' related => ?_
  -- Both sides see the same wish, or the left one stops where the right one need not be followed.
  rcases simulation.stops related with same | ⟨asked, allowed⟩
  · rw [same]
    split
    · exact simulation.raise _
    · exact .pure trivial
  · rw [if_pos asked]
    exact .excuse allowed _

/-- Looking up a name is in step. -/
theorem lookup_keeps {name : Name} (admitted : relations.admits (.symbol name) frame frame') :
    relations.Keeps level (Match relations.functions) (Evaluation.lookup frame name)
      (Evaluation.lookup frame' name) := by
  -- Both sides look in their frames, and find related values or nothing.
  refine InStep.get_bind fun world world' kept => ?_
  rcases rel_cases (simulation.lookup admitted kept) with
    ⟨missing, missing'⟩ | ⟨value, value', found, found', same⟩
  · simp only [missing, missing']
    exact simulation.raise _
  · simp only [found, found']
    exact .pure same

end Simulation

end Scriptlet

import Scriptlet.Proofs.Expr.Shape
import Scriptlet.Proofs.Machine.Growth

/-!
Expressions without names mean the same at any time and in any frame.

Such an expression can look nothing up and bind nothing. Of two evaluations of it, one corresponds
to the other up to where they start to number new functions and new frames.
-/

namespace Scriptlet

open Evaluation Value

namespace Expr

mutual

/-- Whether an expression gives no function a name, be it in the body of another function. -/
def isAnonymous : Expr → Bool
  | node operation name children =>
    !(operation == .define && name.isSome) && allAnonymous children
  | _ => true

/-- Whether expressions give no function a name. -/
def allAnonymous : List Expr → Bool
  | [] => true
  | expr :: rest => expr.isAnonymous && allAnonymous rest

end

/-- All of a list is anonymous exactly when each of its items is. -/
theorem allAnonymous_iff (exprs : List Expr) :
    allAnonymous exprs = true ↔ ∀ expr ∈ exprs, expr.isAnonymous = true := by
  -- By induction on the list.
  induction exprs with
  | nil => simp [allAnonymous]
  | cons expr rest ih => simp [allAnonymous, ih]

/-- Whether an expression neither looks up nor gives a name. -/
def Closed (expr : Expr) : Prop :=
  expr.isDeterministic = true ∧ expr.isAnonymous = true

/-- A name is looked up. -/
theorem not_closed_symbol (name : Name) : ¬(symbol name).Closed := by
  -- To look a name up is what makes an expression hang on its surroundings.
  simp [Closed, isDeterministic]

variable {operation : Operation} {name : Option Name} {children : List Expr}

/-- The parts of an expression without names have none. -/
theorem Closed.part {child : Expr} (closed : (node operation name children).Closed)
    (member : child ∈ children) : child.Closed := by
  -- Both properties are asked of all children of a node.
  simp only [Closed, isDeterministic, isAnonymous, Bool.and_eq_true] at closed
  exact ⟨(allDeterministic_iff children).mp closed.1.2 child member,
    (allAnonymous_iff children).mp closed.2.2 child member⟩

/-- The header of a definition without names has no parameters. -/
theorem header_of_closed {position : Nat} {params : List (Name × Name)}
    {returnType : Option Name} (closed : ∀ child ∈ children, child.Closed)
    (shaped : header operation position children = .ok (params, returnType)) : params = [] := by
  -- The header is empty, begins with a parameter, or is a return type; the last two hold names.
  unfold header at shaped
  split at shaped
  case h_1 => simp_all
  case h_2 parts rest =>
    split at shaped
    · -- A parameter would be written as a pair of names.
      exact absurd ((closed _ List.mem_cons_self).part List.mem_cons_self) (not_closed_symbol _)
    · cases shaped
  case h_3 => exact absurd (closed _ List.mem_cons_self) (not_closed_symbol _)
  case h_4 => cases shaped

/-- A definition without names has no parameters, and a body without names. -/
theorem definition_of_closed {parts : Definition} (closed : ∀ child ∈ children, child.Closed)
    (shaped : definition operation children = .ok parts) :
    parts.params = [] ∧ parts.body.Closed := by
  obtain ⟨last, -, front⟩ := definition_eq_ok shaped
  -- The header is read off the children in front of the body.
  have before : ∀ child ∈ children.dropLast, child.Closed := fun child member =>
    closed child (List.dropLast_subset children member)
  exact ⟨header_of_closed before front, closed parts.body (List.mem_of_getLast? last)⟩

mutual

/-- An expression without names binds none. -/
theorem targets_of_closed : (expr : Expr) → expr.Closed → expr.targets = []
  | literal .., _ | symbol _, _ => rfl
  | node operation name children, closed => by
    -- All that a node could bind is its own name, or the name in front of a binding.
    have parts : ∀ child ∈ children, child.Closed := fun child => closed.part
    rw [targets]
    split
    case isTrue defines =>
      -- Only a definition with a name would bind one.
      have anonymous := closed.2
      cases name with
      | none => rfl
      | some name => simp [isAnonymous, defines] at anonymous
    case isFalse =>
      have deterministic : allDeterministic children = true :=
        (allDeterministic_iff children).mpr fun child member => (parts child member).1
      rw [boundName?_of_deterministic deterministic, allTargets_of_closed children parts]
      rfl

/-- Expressions without names bind none. -/
theorem allTargets_of_closed : (exprs : List Expr) → (∀ expr ∈ exprs, expr.Closed) →
    allTargets exprs = []
  | [], _ => rfl
  | expr :: rest, closed => by
    rw [allTargets, targets_of_closed expr (closed expr List.mem_cons_self),
      allTargets_of_closed rest fun other member => closed other (List.mem_cons_of_mem _ member)]
    rfl

end

end Expr

section Twins

variable (start start' : World) (frame frame' : Nat)

/-- Whether two frames are the given ones, or came about as the same frame since two starts. -/
def twinFrames (inner inner' : Nat) : Prop :=
  (inner = frame ∧ inner' = frame') ∨
    ∃ place, inner = start.heap.next + place ∧ inner' = start'.heap.next + place

/--
Whether two functions are the same but for how functions and frames were numbered at two starts.

They have been defined since then, have no parameters, and their bodies are without names.
-/
structure Closure.Twin (closure closure' : Closure) : Prop where
  /-- They have been defined as the same function since the starts. -/
  id : ∃ place, closure.id = start.definitions + place ∧ closure'.id = start'.definitions + place
  /-- They have been defined in the same frame. -/
  frame : twinFrames start start' frame frame' closure.frame closure'.frame
  /-- They go by the same name. -/
  name_eq : closure.name = closure'.name
  /-- They have no parameters. -/
  params_eq : closure.params = [] ∧ closure'.params = []
  /-- They are declared with the same return type. -/
  returnType_eq : closure.returnType = closure'.returnType
  /-- They have the same body. -/
  body_eq : closure.body = closure'.body
  /-- The body is without names. -/
  closed : closure.body.Closed

/-- Whether two values are the same but for how functions and frames were numbered at two starts. -/
def Value.Twin : Value → Value → Prop :=
  Match (Function.Match (Closure.Twin start start' frame frame') fun _ => False)

/-- Whether evaluations that started in two worlds have done the same to both of them. -/
structure World.Twin (world world' : World) : Prop where
  /-- The same frames have come about. -/
  frames : ∃ place, world.heap.next = start.heap.next + place ∧
    world'.heap.next = start'.heap.next + place
  /-- The same functions have been defined. -/
  definitions : ∃ place, world.definitions = start.definitions + place ∧
    world'.definitions = start'.definitions + place
  /-- As many calls are under way. -/
  depth_eq : world.depth = world'.depth
  /-- The one run is asked to stop as it was. -/
  interrupted : world.interrupted = start.interrupted
  /-- The other run is not asked to stop. -/
  quiet : world'.interrupted = false

variable {start start' frame frame'}

/-- Of two pairs of the same frames, the ones are equal exactly where the others are. -/
theorem twinFrames.eq_iff {inner inner' other other' : Nat} (old : frame < start.heap.next)
    (old' : frame' < start'.heap.next)
    (same : twinFrames start start' frame frame' inner inner')
    (same' : twinFrames start start' frame frame' other other') :
    inner = other ↔ inner' = other' := by
  -- A frame that is new on one side is new on the other.
  rcases same with ⟨rfl, rfl⟩ | ⟨place, rfl, rfl⟩ <;>
    rcases same' with ⟨rfl, rfl⟩ | ⟨place', rfl, rfl⟩ <;> omega

/-- Of two pairs of the same functions, the ones are equal exactly where the others are. -/
theorem Closure.Twin.eq_iff {c c' d d' : Closure} (old : frame < start.heap.next)
    (old' : frame' < start'.heap.next) (same : Closure.Twin start start' frame frame' c c')
    (same' : Closure.Twin start start' frame frame' d d') : c = d ↔ c' = d' := by
  -- Their numbers and frames agree or differ together, and all else is the same on both sides.
  obtain ⟨place, id, id'⟩ := same.id
  obtain ⟨place', other, other'⟩ := same'.id
  have frames := same.frame.eq_iff old old' same'.frame
  have name := same.name_eq
  have name' := same'.name_eq
  obtain ⟨params, params'⟩ := same.params_eq
  obtain ⟨paramsOther, paramsOther'⟩ := same'.params_eq
  have returnType := same.returnType_eq
  have returnType' := same'.returnType_eq
  have body := same.body_eq
  have body' := same'.body_eq
  cases c; cases c'; cases d; cases d'
  simp_all

/-- What corresponds in two runs of an expression without names, wherever they start. -/
def twins (start start' : World) (frame frame' : Nat) : Relations where
  -- A run that is asked to stop may do so where the other one goes on.
  excused stop := start.interrupted = true ∧ stop = .failed .interrupted
  worlds _ := World.Twin start start'
  closures := Closure.Twin start start' frame frame'
  natives _ := False
  admits expr inner inner' := expr.Closed ∧ twinFrames start start' frame frame' inner inner'
  writes _ _ _ := False

/-- What evaluation does with an expression without names, it does wherever it starts. -/
theorem twins_simulation {context context' : Context}
    (settings_eq : context.settings = context'.settings) (old : frame < start.heap.next)
    (old' : frame' < start'.heap.next) :
    Simulation (twins start start' frame frame') context context' where
  tolerance_eq := congrArg Settings.tolerance settings_eq
  places_eq := congrArg Settings.places settings_eq
  alike same := ⟨same.name_eq, same.params_eq.1.trans same.params_eq.2.symm, same.returnType_eq,
    same.body_eq⟩
  one_to_one same same' := same.eq_iff old old' same'
  part admitted _ member := ⟨admitted.1.part member, admitted.2⟩
  -- A binding starts with a name, so there is none.
  target admitted :=
    Expr.not_closed_symbol _ (admitted.1.part List.mem_cons_self)
  callee admitted := by
    -- A call by name hangs on the surroundings.
    have deterministic := admitted.1.1
    simp [Expr.isDeterministic, Expr.callsByName] at deterministic
  named admitted := by
    have anonymous := admitted.1.2
    simp [Expr.isAnonymous] at anonymous
  noted happening _ twin := ⟨twin.frames, twin.definitions, twin.depth_eq, twin.interrupted,
    twin.quiet⟩
  stops {level world world'} twin := by
    -- The second run is never asked to stop; the first one is excused if it is.
    rw [twin.quiet, twin.interrupted]
    cases asked : start.interrupted with
    | false => exact .inl rfl
    | true => exact .inr ⟨rfl, asked, rfl⟩
  room twin := .inl (Context.full?_congr (congrArg Settings.maxDepth settings_eq) twin.depth_eq)
  lookup admitted := absurd admitted.1 (Expr.not_closed_symbol _)
  binds_eq impossible := impossible.elim
  bind impossible := impossible.elim
  define {level world world' name children inner inner' parts params returnType} admitted shaped
      resolved _ twin := by
    -- Without names there are no parameters, so the functions ask nothing of their callers.
    obtain ⟨none, closed⟩ := Expr.definition_of_closed (fun child => admitted.1.part) shaped
    rw [none] at resolved
    cases resolved
    exact ⟨twin.definitions, admitted.2, rfl, ⟨rfl, rfl⟩, rfl, rfl, closed⟩
  counted twin := by
    -- One more has been defined since the start on either side.
    obtain ⟨place, here, there⟩ := twin.definitions
    refine ⟨twin.frames, ⟨place + 1, ?_, ?_⟩, twin.depth_eq, twin.interrupted, twin.quiet⟩ <;>
      simp only <;> omega
  enter _ _ twin := ⟨twin.frames, twin.definitions, congrArg (· + 1) twin.depth_eq,
    twin.interrupted, twin.quiet⟩
  leave twin := ⟨twin.frames, twin.definitions, congrArg (· - 1) twin.depth_eq,
    twin.interrupted, twin.quiet⟩
  extend _ twin := by
    -- One more has come about since the start on either side.
    obtain ⟨place, here, there⟩ := twin.frames
    refine ⟨⟨place + 1, ?_, ?_⟩, twin.definitions, twin.depth_eq, twin.interrupted, twin.quiet⟩ <;>
      simp only [Heap.next_extend] <;> omega
  inside same twin := ⟨⟨same.closed, .inr twin.frames⟩, by simp [same.params_eq]⟩
  asked impossible := impossible.elim
  host impossible := impossible.elim

/-- Nothing has been done to the worlds in which evaluations start. -/
theorem World.Twin.refl (depth_eq : start.depth = start'.depth)
    (quiet : start'.interrupted = false) : World.Twin start start' start start' :=
  ⟨⟨0, rfl, rfl⟩, ⟨0, rfl, rfl⟩, depth_eq, rfl, quiet⟩

end Twins

namespace Interpreter

/-- Whether expressions without names can be compared in two frames of two interpreters. -/
structure Comparable (left right : Interpreter) (frame frame' : Nat) : Prop where
  /-- The settings are the same. -/
  settings_eq : left.settings = right.settings
  /-- As many calls are under way. -/
  depth_eq : left.world.depth = right.world.depth
  /-- The second interpreter is not asked to stop. -/
  quiet : right.world.interrupted = false
  /-- The first interpreter has the first frame. -/
  old : frame < left.world.heap.next
  /-- The second interpreter has the second frame. -/
  old' : frame' < right.world.heap.next

variable {left right : Interpreter} {expr : Expr} {frame frame' : Nat}

/-- What is done in step comes to the same, unless the first run was asked to stop and does. -/
theorem Comparable.perform_alike (comparable : Comparable left right frame frame')
    {evaluation evaluation' : Evaluation Value}
    (kept : (twins left.world right.world frame frame').Keeps 0
      (Value.Twin left.world right.world frame frame') evaluation evaluation') :
    (left.world.interrupted = true ∧
        (left.perform evaluation).1 = .error (.failed .interrupted)) ∨
      Alike (Value.Twin left.world right.world frame frame') (left.perform evaluation).1
        (right.perform evaluation').1 := by
  -- In step from worlds to which nothing has been done.
  rw [perform_eq, perform_eq]
  rcases kept.ends (World.Twin.refl comparable.depth_eq comparable.quiet) with
    ⟨stop, stopped, asked, rfl⟩ | ⟨alike, -⟩
  · exact .inl ⟨asked, stopped⟩
  · exact .inr alike

/-- An expression without names comes to the same in any two frames of any two interpreters. -/
theorem Comparable.eval_alike (comparable : Comparable left right frame frame')
    (host host' : Host) (closed : expr.Closed) (steps : Nat) :
    (left.world.interrupted = true ∧ (left.perform (eval (left.context host) steps expr frame)).1 =
        .error (.failed .interrupted)) ∨
      Alike (Value.Twin left.world right.world frame frame')
        (left.perform (eval (left.context host) steps expr frame)).1
        (right.perform (eval (right.context host') steps expr frame')).1 := by
  -- Neither the frame nor the start is anything that such an expression could tell.
  have simulation : Simulation (twins left.world right.world frame frame') (left.context host)
      (right.context host') :=
    twins_simulation comparable.settings_eq comparable.old comparable.old'
  exact comparable.perform_alike
    (simulation.eval_keeps steps 0 expr frame frame' ⟨closed, .inl ⟨rfl, rfl⟩⟩)

/-- The same is true if the shape of the expression is checked first. -/
theorem Comparable.evalIn_alike (comparable : Comparable left right frame frame')
    (host host' : Host) (closed : expr.Closed) :
    (left.world.interrupted = true ∧
        (left.evalIn host expr frame).1 = .error (.failed .interrupted)) ∨
      Alike (Value.Twin left.world right.world frame frame') (left.evalIn host expr frame).1
        (right.evalIn host' expr frame').1 := by
  have simulation : Simulation (twins left.world right.world frame frame') (left.context host)
      (right.context host') :=
    twins_simulation comparable.settings_eq comparable.old comparable.old'
  -- The check comes before the evaluation, and leaves the worlds alone.
  refine comparable.perform_alike ?_
  -- The shape is the same on both sides, so both are refused alike or go on.
  exact InStep.bind (simulation.ofShape expr.validate) fun _ _ _ =>
    simulation.eval_keeps steps 0 expr frame frame' ⟨closed, .inl ⟨rfl, rfl⟩⟩

/-- An expression without names may bind one nowhere. -/
theorem admits_of_closed {before : Heap} (closed : expr.Closed) :
    (Invariant.growth (fun _ _ => False) before).admits expr frame :=
  -- There is no target that could be in the wrong frame.
  .inr (by simp [Expr.targets_of_closed expr closed])

end Interpreter

end Scriptlet

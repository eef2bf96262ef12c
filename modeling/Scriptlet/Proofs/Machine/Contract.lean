import Scriptlet.Proofs.EvalError
import Scriptlet.Proofs.Expr.Flaw
import Scriptlet.Proofs.Library
import Scriptlet.Proofs.Machine.Call
import Scriptlet.Proofs.Machine.Triple

/-!
Contracts: what holds while an evaluation goes on, and what holds once it has failed.

A contract says of each single thing that evaluation does that it leaves the conditions as they are
to be. Failures come one by one as well, each with what is known at the place where it is raised.
The part of a contract that speaks of neither calls nor loops stands by itself.
-/

namespace Scriptlet

open Evaluation Value

/-- What is to hold of an evaluation and of the world that it works on. -/
structure Conditions where
  /-- What holds of the world while so many calls are under way. -/
  running : Nat → World → Prop
  /-- What holds of the world once the evaluation has stopped, while so many calls are to end. -/
  stopped : Nat → Stop → World → Prop
  /-- In which frames an expression may be evaluated. -/
  admits : Expr → Nat → Prop
  /-- In which frames a name may be bound. -/
  writes : Name → Nat → Prop
  /-- Which functions of scripts may come up. -/
  fit : Closure → Prop

namespace Conditions

variable {α β : Type} {conditions : Conditions} {level : Nat} {yields : α → Prop}
  {evaluation : Evaluation α}

/-- Whether an evaluation meets the conditions, and what it yields is as claimed. -/
def Meets (conditions : Conditions) (level : Nat) (yields : α → Prop)
    (evaluation : Evaluation α) : Prop :=
  Triple (conditions.running level) evaluation
    (fun found world => yields found ∧ conditions.running level world) (conditions.stopped level)

/-- Whether a way to evaluate meets the conditions on all that may be evaluated. -/
def MeetsAll (conditions : Conditions) (self : Evaluator) : Prop :=
  ∀ level expr frame, conditions.admits expr frame →
    conditions.Meets level (Fits conditions.fit) (self expr frame)

/-- Whether a run has just been asked whether to stop, which it is not to do. -/
def Asked (conditions : Conditions) (level : Nat) (world : World) : Prop :=
  ∃ before, conditions.running level before ∧ before.interrupted = false ∧
    world = before.note .polled

/-- Something as claimed may be yielded at once. -/
theorem Meets.pure {found : α} (claimed : yields found) :
    conditions.Meets level yields (pure found) :=
  Triple.pure fun _ held => ⟨claimed, held⟩

/-- Evaluations in a row meet the conditions if each of them does. -/
theorem Meets.bind {further : β → Prop} {next : α → Evaluation β}
    (first : conditions.Meets level yields evaluation)
    (rest : ∀ found, yields found → conditions.Meets level further (next found)) :
    conditions.Meets level further (evaluation >>= next) :=
  Triple.bind first fun found => .known (rest found)

/-- Evaluations meet the conditions if nobody needs what they yield. -/
theorem Meets.discard (meets : conditions.Meets level yields evaluation) :
    conditions.Meets level (fun _ => True) (discard evaluation) :=
  Triple.discard meets fun _ _ both => ⟨trivial, both.2⟩

/-- A change that leaves what holds meets the conditions. -/
theorem Meets.modify {change : World → World}
    (keeps : ∀ world, conditions.running level world → conditions.running level (change world)) :
    conditions.Meets level (fun _ => True) (modify change) :=
  Triple.modify fun world held => ⟨trivial, keeps world held⟩

end Conditions

/-- Conditions that all that evaluation does leaves as they are to be, calls and loops aside. -/
structure Bylaws (conditions : Conditions) : Prop where
  /-- With a node, its children may be evaluated, unless the node takes them apart. -/
  part : ∀ {operation name children frame child},
    conditions.admits (.node operation name children) frame →
      Operation.takesApart operation = false → child ∈ children → conditions.admits child frame
  /-- With a selection, the children of its arms may be evaluated. -/
  arm : ∀ {name token children branches frame child},
    conditions.admits (.node .select name children) frame → .node .pair token branches ∈ children →
      child ∈ branches → conditions.admits child frame
  /-- With a binding, its name may be bound. -/
  target : ∀ {token name rest frame},
    conditions.admits (.node .bind token (.symbol name :: rest)) frame →
      conditions.writes name frame
  /-- With a definition, its name may be bound. -/
  named : ∀ {name children frame}, conditions.admits (.node .define (some name) children) frame →
    conditions.writes name frame
  /-- Anything may fail plainly. -/
  failed : ∀ {level world error}, EvalError.Plain error → conditions.running level world →
    conditions.stopped level (.failed error) (world.note (.raised error))
  /-- What does not pass the check of shapes may fail because of its shape. -/
  misshapen : ∀ {level world expr frame error}, conditions.admits expr frame →
    Expr.validate expr ≠ .ok () → conditions.running level world →
      conditions.stopped level (.failed (.badShape error)) (world.note (.raised (.badShape error)))
  /-- Pairs fail. -/
  strayPair : ∀ {level world name children frame},
    conditions.admits (.node .pair name children) frame → conditions.running level world →
      conditions.stopped level (.failed (.badShape ⟨.pair, .strayPair⟩))
        (world.note (.raised (.badShape ⟨.pair, .strayPair⟩)))
  /-- Definitions that name unknown types fail. -/
  unknownType : ∀ {level world name children frame parts type},
    conditions.admits (.node .define name children) frame →
    Expr.definition .define children = .ok parts → type ∈ Definition.types parts →
    ValueType.ofName? (Name.text type) = none → conditions.running level world →
      conditions.stopped level (.failed (.badShape ⟨.define, .unknownType type⟩))
        (world.note (.raised (.badShape ⟨.define, .unknownType type⟩)))
  /-- An evaluation may run out of steps. -/
  exhausted : ∀ {level world}, conditions.running level world →
    conditions.stopped level .exhausted world
  /-- The value of a name is fit. -/
  lookup : ∀ {level world name frame value}, conditions.admits (.symbol name) frame →
    conditions.running level world → world.heap.lookup frame name = some value →
      Fits conditions.fit value
  /-- A name that may be bound may be bound to a fit value. -/
  bind : ∀ {level world name frame value}, conditions.writes name frame →
    Fits conditions.fit value → conditions.running level world →
      conditions.running level (world.bind frame name value)
  /-- A definition makes a fit function. -/
  define : ∀ {level world name children frame parts params returnType},
    conditions.admits (.node .define name children) frame →
    Expr.definition .define children = .ok parts → resolveParams parts.params = .ok params →
    resolveReturn parts.returnType = .ok returnType → conditions.running level world →
      conditions.fit ⟨world.definitions, name, params, returnType, parts.body, frame⟩
  /-- Definitions may be counted. -/
  counted : ∀ {level world}, conditions.running level world →
    conditions.running level { world with definitions := world.definitions + 1 }

/-- Conditions that every single thing that evaluation does leaves as they are to be. -/
structure Contract (conditions : Conditions) (context : Context) : Prop
    extends Bylaws conditions where
  /-- With a call by name, the function may be looked up. -/
  callee : ∀ {name children frame}, conditions.admits (.node .call (some name) children) frame →
    conditions.admits (.symbol name) frame
  /-- A run that is asked to stop does so when it asks for that. -/
  interrupted : ∀ {level world}, conditions.running level world → world.interrupted = true →
    conditions.stopped level (.failed .interrupted)
      ((world.note .polled).note (.raised .interrupted))
  /-- A run that is not asked to stop goes on. -/
  polled : ∀ {level world}, conditions.running level world → world.interrupted = false →
    conditions.running level (world.note .polled)
  /-- The condition of a loop may be tested unless the run is asked to stop. -/
  tested : ∀ {level world}, conditions.running level world → world.interrupted = false →
    conditions.running level (world.note .tested)
  /-- A call fails if as many are under way as may be. -/
  tooDeep : ∀ {level world limit}, conditions.running level world → world.interrupted = false →
    context.full? world = some limit →
      conditions.stopped level (.failed (.tooDeep limit))
        ((world.note .polled).note (.raised (.tooDeep limit)))
  /-- A fit function may be entered with fit arguments if there is room for its call. -/
  enter : ∀ {level world function arguments}, (∀ host, function ≠ .host host) →
    Fits conditions.fit (.function function) → AllFit conditions.fit arguments →
    conditions.running level world → world.interrupted = false → context.full? world = none →
      conditions.running (level + 1) (world.enter function arguments)
  /-- If there is room, a function of the host may be called; its answer to fit arguments is fit. -/
  answered : ∀ {level world function arguments value}, AllFit conditions.fit arguments →
    conditions.running level world → world.interrupted = false → context.full? world = none →
    (context.host world.hostCalls ⟨function, arguments⟩).result = .ok value →
      Fits conditions.fit value ∧
        conditions.running (level + 1) ((world.enter (.host function) arguments).heed
          (context.host world.hostCalls ⟨function, arguments⟩))
  /-- A function of the host that may be called may fail. -/
  refused : ∀ {level world function arguments error}, AllFit conditions.fit arguments →
    conditions.running level world → world.interrupted = false → context.full? world = none →
    (context.host world.hostCalls ⟨function, arguments⟩).result = .error error →
      conditions.stopped (level + 1) (.failed error)
        (((world.enter (.host function) arguments).heed
          (context.host world.hostCalls ⟨function, arguments⟩)).note (.hostRaised error))
  /-- Calls may be left with a result. -/
  leave : ∀ {level world}, conditions.running (level + 1) world →
    conditions.running level (afterCall world)
  /-- Calls are left by a failure. -/
  abandon : ∀ {level stop world}, conditions.stopped (level + 1) stop world →
    conditions.stopped level stop (afterCall world)
  /-- A frame may be put into the frame of a fit function. -/
  extend : ∀ {level world} {closure : Closure}, conditions.fit closure →
    conditions.running level world →
      conditions.running level { world with heap := world.heap.extend closure.frame }
  /-- In a new frame, a fit function's parameters may be bound and its body may be evaluated. -/
  inside : ∀ {level world} {closure : Closure}, conditions.fit closure →
    conditions.running level world → conditions.admits closure.body world.heap.next ∧
      ∀ param ∈ closure.params, conditions.writes param.1 world.heap.next

namespace Function

variable {fit : Closure → Prop} {function : Function}

/-- Arguments that are checked stay fit. -/
theorem allFit_of_checkArguments {arguments checked : List Value}
    (fits : AllFit fit arguments)
    (passed : function.checkArguments arguments = .ok checked) :
    AllFit fit checked := by
  -- The check makes matching values of matching ones, so it makes fit values of fit ones.
  have same := (matchAll_sameFit_iff arguments arguments).mpr ⟨rfl, fits⟩
  have alike := checkArguments_alike (Eq.refl function.displayName) rfl same
  rw [passed] at alike
  exact ((matchAll_sameFit_iff _ _).mp alike).2

/-- A result that is checked stays fit. -/
theorem fits_of_checkResult {result checked : Value}
    (fits : Fits fit result) (passed : function.checkResult result = .ok checked) :
    Fits fit checked := by
  -- As with arguments, the check makes a fit value of a fit one.
  have same := (match_sameFit_iff result result).mpr ⟨rfl, fits⟩
  exact fits_of_alike (checkResult_alike (Eq.refl function.displayName) rfl same) passed

end Function

namespace Bylaws

variable {conditions : Conditions} (bylaws : Bylaws conditions) {level frame : Nat}

include bylaws

/-- A plain error may be raised. -/
theorem raise {α : Type} {yields : α → Prop} {error : EvalError} (plain : error.Plain) :
    conditions.Meets level yields (Evaluation.raise error) :=
  -- What is known where the error is raised is what the conditions ask for.
  Triple.raise fun _ held => bylaws.failed plain held

/-- What fails plainly, if at all, may be taken over. -/
theorem ofExcept {α : Type} {yields : α → Prop} {outcome : Except EvalError α}
    (plainly : FailsPlainly outcome) (claimed : ∀ found, outcome = .ok found → yields found) :
    conditions.Meets level yields (Evaluation.ofExcept outcome) :=
  -- The outcome is a value, which changes nothing, or a plain failure.
  Triple.ofExcept (fun found yielded _ held => ⟨claimed found yielded, held⟩)
    fun error failed _ held => bylaws.failed (plainly error failed) held

/-- What checked expressions have may be read off an expression that may be evaluated. -/
theorem ofShape {α : Type} {shape : Except ShapeError α} {expr : Expr}
    (whole : conditions.admits expr frame)
    (shaped : expr.validate = .ok () → ∃ found, shape = .ok found) :
    conditions.Meets level (fun found => shape = .ok found) (Evaluation.ofShape shape) := by
  refine Triple.ofShape (fun found yielded _ held => ⟨yielded, held⟩) fun error failed _ held => ?_
  -- A shape that is missing shows that the expression has not passed the check.
  refine bylaws.misshapen whole (fun valid => ?_) held
  obtain ⟨found, yielded⟩ := shaped valid
  rw [failed] at yielded
  cases yielded

/-- Looking up a name that may be evaluated gives a fit value, or the name is unbound. -/
theorem lookup_meets {name : Name} (admitted : conditions.admits (.symbol name) frame) :
    -- The world is looked at, and the frames in it bind the name or do not.
    conditions.Meets level (Fits conditions.fit) (Evaluation.lookup frame name) := by
  refine Triple.get_bind fun world held => ?_
  cases found : world.heap.lookup frame name with
  | none => exact Triple.here (bylaws.raise trivial) held
  | some value =>
    have fit : Fits conditions.fit value := bylaws.lookup admitted held found
    exact Triple.here (Conditions.Meets.pure fit) held

end Bylaws

namespace Contract

variable {conditions : Conditions} {context : Context} (contract : Contract conditions context)
  {level frame : Nat} {self : Evaluator}

include contract

/-- A run that goes on when it has been asked whether to stop is not to stop. -/
theorem running_of_asked {world : World} (asked : conditions.Asked level world) :
    conditions.running level world ∧ world.interrupted = false := by
  -- To write down that it was asked is all that has happened since.
  obtain ⟨before, held, clear, rfl⟩ := asked
  exact ⟨contract.polled held clear, clear⟩

/-- A look at whether to stop fails, or it finds that nobody asks for it. -/
theorem poll_triple : Triple (conditions.running level) poll
    (fun _ => conditions.Asked level) (conditions.stopped level) := by
  intro world held
  -- The look writes itself down, and what it finds is what was there before.
  rw [poll_apply]
  split
  case isTrue asked => exact contract.interrupted held asked
  case isFalse clear => exact ⟨world, held, by simpa using clear, rfl⟩

/-- A look at whether there is room for a further call fails, or there is room. -/
theorem checkDepth_triple : Triple (conditions.Asked level) (checkDepth context)
    (fun _ world => conditions.running level world ∧ world.interrupted = false ∧
      context.full? world = none) (conditions.stopped level) := by
  -- The run has just been asked whether to stop, and it goes on.
  intro world asked
  obtain ⟨running, clear⟩ := contract.running_of_asked asked
  obtain ⟨before, held, clear', rfl⟩ := asked
  rw [checkDepth_apply]
  -- To have asked whether to stop makes no difference to the calls under way.
  have same : context.full? (before.note .polled) = context.full? before := rfl
  rw [same]
  cases full : context.full? before with
  | none => exact ⟨running, clear, full⟩
  | some limit => exact contract.tooDeep held clear' full

/-- Parameters may be bound to fit arguments. -/
theorem bindAll_meets {params : List (Name × ValueType)} {values : List Value}
    (writes : ∀ param ∈ params, conditions.writes param.1 frame)
    (fits : AllFit conditions.fit values) :
    conditions.Meets level (fun _ => True) (bindAll frame params values) := by
  -- By induction on the parameters, as long as there are values for them.
  induction params generalizing values with
  | nil => exact .pure trivial
  | cons param params ih =>
    cases values with
    | nil => exact .pure trivial
    | cons value values =>
      -- Of two parameters of one name the first is bound; the conditions do not tell them apart.
      rw [allFit_cons] at fits
      have bound : conditions.Meets level (fun _ => True)
          (Evaluation.bind frame param.1 value) :=
        .modify fun _ held => contract.bind (writes param (by simp)) fits.1 held
      refine bound.bind fun _ _ => ?_
      exact ih (fun other member => writes other (by simp [member])) fits.2

/-- Fit functions of scripts may run. -/
theorem runClosure_meets (meets : conditions.MeetsAll self) {closure : Closure}
    {arguments : List Value} (known : conditions.fit closure)
    (fits : AllFit conditions.fit arguments) :
    conditions.Meets level (Fits conditions.fit) (runClosure self closure arguments) := by
  -- In the frame that is made, the parameters may be bound and the body may be evaluated.
  have put : conditions.Meets level (fun frame => conditions.admits closure.body frame ∧
      ∀ param ∈ closure.params, conditions.writes param.1 frame)
      (Evaluation.extend closure.frame) :=
    Triple.modifyGet fun world held => ⟨contract.inside known held, contract.extend known held⟩
  refine put.bind fun frame both => ?_
  obtain ⟨admitted, writes⟩ := both
  refine (contract.bindAll_meets writes fits).bind fun _ _ => ?_
  exact meets level closure.body frame admitted

/-- What is done as a call meets the conditions if there is room for the call. -/
theorem underWay_triple {function : Function} {arguments : List Value} {body : Evaluation Value}
    (own : ∀ host, function ≠ .host host) (known : Fits conditions.fit (.function function))
    (fits : AllFit conditions.fit arguments)
    (meets : conditions.Meets (level + 1) (Fits conditions.fit) body) :
    Triple (fun world => conditions.running level world ∧ world.interrupted = false ∧
        context.full? world = none)
      (underWay function arguments body)
      (fun found world => Fits conditions.fit found ∧ conditions.running level world)
      (conditions.stopped level) := by
  -- The call is counted and written down before the body starts.
  intro world held
  obtain ⟨running, clear, room⟩ := held
  have ended := meets _ (contract.enter own known fits running clear room)
  rw [underWay_apply]
  -- However the body ends, the call is left.
  cases outcome : body _ with
  | ok found after =>
    rw [outcome] at ended
    exact ⟨ended.1, contract.leave ended.2⟩
  | error stop after =>
    rw [outcome] at ended
    exact contract.abandon ended

/-- Functions of the host may be called with fit arguments if there is room for the call. -/
theorem underWay_host_triple {function : HostFunction} {arguments : List Value}
    (fits : AllFit conditions.fit arguments) :
    Triple (fun world => conditions.running level world ∧ world.interrupted = false ∧
        context.full? world = none)
      (underWay (.host function) arguments (runHost context function arguments))
      (fun found world => Fits conditions.fit found ∧ conditions.running level world)
      (conditions.stopped level) := by
  intro world held
  obtain ⟨running, clear, room⟩ := held
  rw [underWay_apply, runHost_apply]
  -- The host answers at once, so that the call is left as soon as it has been entered.
  cases answer : (context.host world.hostCalls ⟨function, arguments⟩).result with
  | ok value =>
    obtain ⟨fit, inside⟩ := contract.answered fits running clear room answer
    simp only [answer]
    exact ⟨fit, contract.leave inside⟩
  | error error =>
    simp only [answer]
    exact contract.abandon (contract.refused fits running clear room answer)

/-- Fit functions may run on fit arguments if there is room for the call. -/
theorem run_triple (meets : conditions.MeetsAll self) {function : Function}
    {arguments : List Value} (known : Fits conditions.fit (.function function))
    (fits : AllFit conditions.fit arguments) :
    Triple (fun world => conditions.running level world ∧ world.interrupted = false ∧
        context.full? world = none)
      (underWay function arguments (run context self function arguments))
      (fun found world => Fits conditions.fit found ∧ conditions.running level world)
      (conditions.stopped level) := by
  -- Each kind of function is entered in its own way; only the host's may answer anything.
  cases function with
  | closure closure =>
    exact contract.underWay_triple (by simp) known fits
      (contract.runClosure_meets meets (known closure (by simp [closures])) fits)
  | builtin builtin =>
    -- A built-in function does not look at what scripts have defined, and hands it on unchanged.
    have same := (matchAll_sameFit_iff arguments arguments).mpr ⟨rfl, fits⟩
    exact contract.underWay_triple (by simp) known fits
      (contract.ofExcept (builtin.apply_failsPlainly _ arguments) fun found yielded =>
        fits_of_alike (builtin.apply_alike _ same) yielded)
  | host function => exact contract.underWay_host_triple fits

/-- Fit functions may be called with fit arguments. -/
theorem call_meets (meets : conditions.MeetsAll self) {function : Function}
    {arguments : List Value} (known : Fits conditions.fit (.function function))
    (fits : AllFit conditions.fit arguments) :
    conditions.Meets level (Fits conditions.fit) (call context self function arguments) := by
  -- A call that is not to stop goes on to its checks.
  refine Triple.bind contract.poll_triple fun _ => ?_
  -- The check of the arguments leaves the world as it is found when it asks whether to stop.
  have checks : Triple (conditions.Asked level)
      (Evaluation.ofExcept (function.checkArguments arguments))
      (fun checked world => AllFit conditions.fit checked ∧ conditions.Asked level world)
      (conditions.stopped level) :=
    .ofExcept (fun _ passed _ asked => ⟨Function.allFit_of_checkArguments fits passed, asked⟩)
      fun error failed _ asked =>
        contract.failed (function.checkArguments_failsPlainly arguments error failed)
          (contract.running_of_asked asked).1
  -- What is checked, counted and entered is fit all along, and so is what comes out.
  refine checks.bind fun checked => .known fun fit => ?_
  refine contract.checkDepth_triple.bind fun _ => ?_
  refine (contract.run_triple meets known fit).bind fun result => .known fun found => ?_
  exact contract.ofExcept (function.checkResult_failsPlainly result) fun _ passed =>
    Function.fits_of_checkResult found passed

end Contract

end Scriptlet

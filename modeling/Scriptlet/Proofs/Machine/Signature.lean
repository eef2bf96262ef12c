import Mathlib.Data.List.Forall2
import Scriptlet.Proofs.Machine.Admission
import Scriptlet.Proofs.Machine.Growth
import Scriptlet.Proofs.Outcome

/-!
What the signature of a function promises of its calls.

Main statements: a call that yields a value was given as many arguments as declared, each of a type
that suits, and its value has the declared type; and where the body of a script's function starts,
each parameter is bound in a new frame to the first argument given for it, as widened.
-/

namespace Scriptlet

/-- Whether an argument may be given for a parameter: it is of its type, or an integer for a real. -/
def Suits (param : Option ValueType) (argument : Value) : Prop :=
  ∀ type, param = some type →
    argument.type = type ∨ (argument.type = .integer ∧ type = .real)

namespace Function

/-- Whether a call with some arguments and a value is as the function declares it. -/
structure Honours (function : Function) (arguments : List Value) (value : Value) : Prop where
  /-- There are as many arguments as parameters. -/
  arity : arguments.length = function.arity
  /-- Each argument may be given for its parameter. -/
  arguments : List.Forall₂ Suits function.params arguments
  /-- The value has the declared type, if there is one. -/
  result : ∀ type, function.returnType = some type → value.type = type

/-- An argument as the function is given it. -/
def widened (param : Option ValueType) (argument : Value) : Value :=
  match param with
  | none => argument
  | some type => argument.converted type

variable {function : Function} {arguments checked : List Value}

/-- Arguments that are as many as the parameters are converted if they suit, and else do not fit. -/
theorem convertArguments_cases {params : List (Option ValueType)}
    (lengths : arguments.length = params.length) (position : Nat) :
    (List.Forall₂ Suits params arguments ∧
      function.convertArguments position params arguments =
        .ok (List.zipWith widened params arguments)) ∨
    (¬List.Forall₂ Suits params arguments ∧
      ∃ place expected found, function.convertArguments position params arguments =
        .error (.typeMismatch place expected found)) := by
  -- By induction on the parameters, which are as many as the arguments.
  induction params generalizing position arguments with
  | nil =>
    obtain rfl := List.length_eq_zero_iff.mp lengths
    exact .inl ⟨.nil, rfl⟩
  | cons param params ih =>
    cases arguments with
    | nil => cases lengths
    | cons value rest =>
      -- The first argument is looked at first, so that those behind it matter only if it suits.
      have others : rest.length = params.length := Nat.succ.inj lengths
      rw [List.forall₂_cons]
      cases param with
      | none =>
        -- Where any value will do, it is up to the others.
        have any : Suits none value := by simp [Suits]
        rw [and_iff_right any]
        rcases ih others (position + 1) with
          ⟨suit, passed⟩ | ⟨unfit, place, expected, found, failed⟩
        · exact .inl ⟨suit, by simp [convertArguments, passed, widened]⟩
        · exact .inr ⟨unfit, place, expected, found, by simp [convertArguments, failed]⟩
      | some type =>
        have suits : Suits (some type) value ↔ value.type.conformsTo type = true := by
          simp [Suits, ValueType.conformsTo_iff]
        rw [suits]
        by_cases conforms : value.type.conformsTo type = true
        · rw [and_iff_right conforms]
          rcases ih others (position + 1) with
            ⟨suit, passed⟩ | ⟨unfit, place, expected, found, failed⟩
          · exact .inl ⟨suit, by simp [convertArguments, conforms, passed, widened]⟩
          · exact .inr ⟨unfit, place, expected, found,
              by simp [convertArguments, conforms, failed]⟩
        · exact .inr ⟨fun suit => conforms suit.1, .argument position function.displayName, type,
            value.type, by simp [convertArguments, conforms]⟩

/-- The check of a call counts the arguments first, and then looks at their types. -/
theorem checkArguments_cases (function : Function) (arguments : List Value) :
    (arguments.length ≠ function.arity ∧ ∃ name expected found,
      function.checkArguments arguments = .error (.wrongArity name expected found)) ∨
    (arguments.length = function.arity ∧ ¬List.Forall₂ Suits function.params arguments ∧
      ∃ place expected found,
        function.checkArguments arguments = .error (.typeMismatch place expected found)) ∨
    (List.Forall₂ Suits function.params arguments ∧
      function.checkArguments arguments =
        .ok (List.zipWith widened function.params arguments)) := by
  -- The count is looked at first, and the types only if it is right.
  unfold checkArguments
  by_cases same : arguments.length = function.arity
  · rw [if_neg (by simpa using same)]
    rcases convertArguments_cases same 1 with ⟨suit, passed⟩ | ⟨unfit, failed⟩
    · exact .inr (.inr ⟨suit, passed⟩)
    · exact .inr (.inl ⟨same, unfit, failed⟩)
  · rw [if_pos (by simpa using same)]
    exact .inl ⟨same, _, _, _, rfl⟩

/-- Arguments that pass the check of a call are as many as declared, and suit. -/
theorem checkArguments_eq_ok (passed : function.checkArguments arguments = .ok checked) :
    arguments.length = function.arity ∧ List.Forall₂ Suits function.params arguments ∧
      checked = List.zipWith widened function.params arguments := by
  -- Of the three ways in which the check may go, only the last one passes.
  rcases function.checkArguments_cases arguments with
    ⟨-, _, _, _, failed⟩ | ⟨-, -, _, _, _, failed⟩ | ⟨suit, converted⟩
  · rw [failed] at passed
    cases passed
  · rw [failed] at passed
    cases passed
  · rw [converted] at passed
    cases passed
    exact ⟨suit.length_eq.symm, suit, rfl⟩

/-- A result that passes the check of a call has the declared type once it is widened. -/
theorem type_of_checkResult {result value : Value} (passed : function.checkResult result = .ok value)
    (type : ValueType) (declared : function.returnType = some type) : value.type = type := by
  -- The check widens a result that conforms, and refuses any other.
  unfold checkResult at passed
  rw [declared] at passed
  simp only at passed
  split at passed
  case isTrue conforms =>
    cases passed
    exact result.type_converted type conforms
  case isFalse => cases passed

/-- A result of the declared type passes the check of a call. -/
theorem checkResult_of_type {result : Value}
    (typed : ∀ type, function.returnType = some type → result.type = type) :
    ∃ value, function.checkResult result = .ok value := by
  -- Where a type is declared, the result conforms to it by being of this type.
  unfold checkResult
  cases declared : function.returnType with
  | none => exact ⟨_, rfl⟩
  | some type =>
    have same := (ValueType.conformsTo_iff _ _).mpr (.inl (typed type declared))
    simp only [same, if_true]
    exact ⟨_, rfl⟩

end Function

namespace Evaluation

variable {context : Context} {self : Evaluator} {world after : World}

/-- Two evaluations in a row yield something exactly when both of them do. -/
theorem bind_eq_ok_iff {α β : Type} {first : Evaluation α} {next : α → Evaluation β} {result : β} :
    (first >>= next) world = .ok result after ↔
      ∃ found between, first world = .ok found between ∧ next found between = .ok result after := by
  -- A failure of the first one is the failure of both.
  simp only [Bind.bind, EStateM.bind]
  cases first world <;> simp

/-- What is taken over and yielded was there. -/
theorem ofExcept_eq_ok {α : Type} {outcome : Except EvalError α} {result : α}
    (yielded : ofExcept outcome world = .ok result after) : outcome = .ok result := by
  -- An error would have been raised.
  cases outcome with
  | ok found =>
    cases yielded
    rfl
  | error error => cases yielded

/-- A call that yields a value is as the function declares it. -/
theorem honours_of_call {function : Function} {arguments : List Value} {value : Value}
    (called : call context self function arguments world = .ok value after) :
    function.Honours arguments value := by
  rw [call_apply] at called
  -- A call that is stopped, is given the wrong arguments or finds no room yields nothing.
  split at called
  · cases called
  · split at called
    · cases called
    · cases called
    case h_3 checked given room =>
      split at called
      case h_2 => cases called
      case h_1 result left ran =>
        obtain ⟨arity, suit, -⟩ := Function.checkArguments_eq_ok given
        have checked : function.checkResult result = .ok value := ofExcept_eq_ok called
        exact ⟨arity, suit, Function.type_of_checkResult checked⟩

/-- A node that calls something yields what the call of its function on its arguments does. -/
theorem exists_call_of_eval {steps frame : Nat} {name : Option Name} {children : List Expr}
    {value : Value}
    (evaluated : eval context steps (.node .call name children) frame world = .ok value after) :
    ∃ below function exprs arguments found before,
      evalCallee (eval context below) frame name children world =
        .ok (.function function, exprs) found ∧
      evalAll (eval context below) frame exprs found = .ok arguments before ∧
      call context (eval context below) function arguments before = .ok value after := by
  -- The node looks its function up, evaluates the arguments and then calls.
  cases steps with
  | zero => cases evaluated
  | succ below =>
    have node : evalCall context (eval context below) frame name children world = .ok value after :=
      evaluated
    obtain ⟨⟨callee, exprs⟩, found, looked, rest⟩ := bind_eq_ok_iff.mp node
    -- What is not a function is refused before the arguments are evaluated.
    cases callee with
    | function function =>
      obtain ⟨arguments, before, given, called⟩ := bind_eq_ok_iff.mp rest
      exact ⟨below, function, exprs, arguments, found, before, looked, given, called⟩
    | _ => cases rest

end Evaluation

namespace Interpreter

variable {world : World} {frame : Nat} {bindings : List (Name × Value)}

/-- Binding names leaves the frames where they are. -/
theorem frames_bindAll : (bindAll world frame bindings).heap.next = world.heap.next ∧
    (bindAll world frame bindings).heap.parent? = world.heap.parent? := by
  -- Each binding leaves them alone, so that any number of them does.
  let holds (later : World) : Prop :=
    later.heap.next = world.heap.next ∧ later.heap.parent? = world.heap.parent?
  have keeps : ∀ binding ∈ bindings, ∀ later, holds later →
      holds (later.bind frame binding.1 binding.2) := by
    rintro ⟨name, value⟩ - later ⟨same, parents⟩
    have still : (later.heap.bind frame name value).parent? = later.heap.parent? := by
      funext other
      rw [Heap.parent?_bind]
    simp only [holds, World.heap_bind, Heap.next_bind]
    exact ⟨same, still.trans parents⟩
  exact holds_bindAll keeps ⟨rfl, rfl⟩

/-- A frame binds what it has bound before, and then each name to the first value given for it. -/
theorem find?_bindAll (there : frame < world.heap.next) (name : Name) :
    (bindAll world frame bindings).heap.find? frame name =
      (world.heap.find? frame name).or (bindings.lookup name) := by
  -- By induction on the bindings, each made in the world that those before it have left.
  induction bindings generalizing world with
  | nil => simp [bindAll]
  | cons binding rest ih =>
    obtain ⟨first, value⟩ := binding
    have still : frame < (world.bind frame first value).heap.next := by simpa using there
    have step : (bindAll world frame ((first, value) :: rest)).heap.find? frame name =
        ((world.bind frame first value).heap.find? frame name).or (rest.lookup name) := ih still
    rw [step, World.heap_bind]
    by_cases same : name = first
    · -- Whatever is given for the name later on comes too late.
      subst same
      rw [Heap.find?_bind_self _ there]
      cases world.heap.find? frame name <;> simp
    · have differ : ¬(frame = frame ∧ name = first) := fun both => same both.2
      rw [Heap.find?_bind_of_ne _ differ, List.lookup_cons, beq_eq_false_iff_ne.mpr same]

end Interpreter

namespace Closure

variable (closure : Closure)

/-- What a call binds in its frame. -/
def bindings (values : List Value) : List (Name × Value) :=
  (closure.params.map Prod.fst).zip values

/-- The world in which the body of a function starts: there is a new frame, with its bindings. -/
def opened (values : List Value) (world : World) : World :=
  Interpreter.bindAll { world with heap := world.heap.extend closure.frame } world.heap.next
    (closure.bindings values)

/--
Whether a frame binds every formal name to the first argument given for it, as widened.

As two parameters may have one name, it is the type of the first of them that counts.
-/
def BoundIn (arguments : List Value) (heap : Heap) (frame : Nat) : Prop :=
  ∀ name ∈ closure.params.map Prod.fst, ∃ type argument,
    (closure.params.zip arguments).find? (·.1.1 == name) = some ((name, type), argument) ∧
      heap.find? frame name = some (argument.converted type) ∧
      (argument.converted type).type = type

/-- Of arguments that suit, the first one for a name is bound to it, and has the declared type. -/
theorem lookup_widened {params : List (Name × ValueType)} {arguments : List Value} {name : Name}
    (suit : List.Forall₂ Suits (params.map fun param => some param.2) arguments)
    (formal : name ∈ params.map Prod.fst) :
    ∃ type argument, (params.zip arguments).find? (·.1.1 == name) = some ((name, type), argument) ∧
      ((params.map Prod.fst).zip (List.zipWith Function.widened
        (params.map fun param => some param.2) arguments)).lookup name =
          some (argument.converted type) ∧
      (argument.converted type).type = type := by
  -- By induction on the parameters, each with its argument.
  induction params generalizing arguments with
  | nil => cases formal
  | cons param params ih =>
    obtain ⟨first, type⟩ := param
    cases suit with
    | @cons _ argument _ arguments suits suit =>
      by_cases same : first = name
      · subst same
        have conforms : argument.type.conformsTo type = true :=
          (ValueType.conformsTo_iff _ _).mpr (suits type rfl)
        exact ⟨type, argument, by simp, by simp [Function.widened],
          argument.type_converted type conforms⟩
      · -- Another parameter is passed over on both sides.
        have formal : name ∈ params.map Prod.fst := by
          simpa [Ne.symm same] using formal
        obtain ⟨later, found, given, bound, typed⟩ := ih suit formal
        have differ : (first == name) = false := beq_eq_false_iff_ne.mpr same
        have differ' : (name == first) = false := beq_eq_false_iff_ne.mpr (Ne.symm same)
        refine ⟨later, found, ?_, ?_, typed⟩
        · simpa [differ] using given
        · simpa [List.lookup_cons, differ'] using bound

/-- The new frame comes behind all others, and lies in the one where the function was defined. -/
theorem frames_opened (values : List Value) (world : World) :
    (closure.opened values world).heap.next = world.heap.next + 1 ∧
      (closure.opened values world).heap.parent? world.heap.next = some closure.frame := by
  unfold opened
  -- The frame is made before anything is bound in it.
  rw [Interpreter.frames_bindAll.1, Interpreter.frames_bindAll.2]
  exact ⟨Heap.next_extend _, Heap.parent?_extend_self _⟩

variable {closure} {arguments : List Value} {world : World}

/-- Where the body starts, the new frame binds the parameters as it should. -/
theorem boundIn_opened (suit : List.Forall₂ Suits (Function.closure closure).params arguments) :
    closure.BoundIn arguments
      (closure.opened
        (List.zipWith Function.widened (Function.closure closure).params arguments) world).heap
      world.heap.next := by
  intro name formal
  -- The parameter is bound in the new frame as the list of bindings tells.
  obtain ⟨type, argument, first, bound, typed⟩ := lookup_widened suit formal
  refine ⟨type, argument, first, ?_, typed⟩
  have there : world.heap.next < (world.heap.extend closure.frame).next := by simp
  -- Nothing is bound in the frame as long as it is still to come.
  have free : (world.heap.extend closure.frame).find? world.heap.next name = none := by
    rw [Heap.find?_extend, Heap.find?_of_next_le _ name (Nat.le_refl _)]
  rw [opened, Interpreter.find?_bindAll there, free, Option.none_or]
  exact bound

end Closure

namespace Evaluation

variable {context : Context} {self : Evaluator} {world : World}

/-- Binding parameters to values, pair by pair. -/
theorem bindAll_apply {frame : Nat} {params : List (Name × ValueType)} {values : List Value} :
    bindAll frame params values world =
      .ok () (Interpreter.bindAll world frame ((params.map Prod.fst).zip values)) := by
  -- By induction on the parameters, as long as there are values for them.
  induction params generalizing world values with
  | nil => cases values <;> rfl
  | cons param params ih =>
    cases values with
    | nil => rfl
    | cons value values => exact ih

/-- A script's function evaluates its body in the new frame, once the parameters are bound. -/
theorem runClosure_apply {closure : Closure} {values : List Value} :
    runClosure self closure values world =
      self closure.body world.heap.next (closure.opened values world) := by
  -- The new frame is the next one, and the body starts where the bindings have been made.
  change (do
    bindAll world.heap.next closure.params values
    self closure.body world.heap.next : Evaluation Value)
      { world with heap := world.heap.extend closure.frame } = _
  simp only [Bind.bind, EStateM.bind, bindAll_apply]
  rfl

end Evaluation

end Scriptlet

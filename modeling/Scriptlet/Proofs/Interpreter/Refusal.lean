import Scriptlet.Proofs.EvalError
import Scriptlet.Proofs.Machine.Signature

/-!
What the functions of the library refuse, and where they break down.

Main statements: a built-in function that is given what its parameters ask for yields a value of its
type, but for four functions that refuse some arguments, and for one that breaks down if it is to
write a number with too many places. A call of one fails for the number of its arguments, for the
type of one of them, for one of these refusals or in this breakdown, and for nothing else.
-/

namespace Scriptlet

namespace Builtin

/-- Whether a built-in function refuses arguments of the right types. -/
def Refuses : Builtin → List Value → Prop
  | item, [.list items, .integer index] =>
    items ≠ [] ∧ ¬(0 ≤ index.toInt ∧ index.toInt < items.length)
  | character, [.integer code] =>
    0x10FFFF < code.toInt ∨ 0xD800 ≤ code.toInt ∧ code.toInt ≤ 0xDFFF
  | codePoint, [.string text] => text = ""
  | toText, [value] => value.type = .list ∨ value.type = .function
  | _, _ => False

/-- Whether all lists among some values are such that a machine has room for them. -/
def Storable (values : List Value) : Prop :=
  ∀ items, .list items ∈ values → items.length ≤ 0x7FFFFFFFFFFFFFFF

end Builtin

/-! Arguments that suit a parameter. -/

section Suits

variable {value : Value}

/-- What suits a parameter for lists is a list. -/
theorem Suits.eq_list (suit : Suits (some .list) value) : ∃ items, value = .list items := by
  -- No other type is the declared one, and only integers widen.
  cases value <;> simp_all [Suits, Value.type]

/-- What suits a parameter for integers is an integer. -/
theorem Suits.eq_integer (suit : Suits (some .integer) value) : ∃ n, value = .integer n := by
  -- No type widens to that of integers.
  cases value <;> simp_all [Suits, Value.type]

/-- What suits a parameter for texts is a text. -/
theorem Suits.eq_string (suit : Suits (some .string) value) : ∃ text, value = .string text := by
  -- No type widens to that of texts.
  cases value <;> simp_all [Suits, Value.type]

/-- What is given for a real number is one once it is widened. -/
theorem Suits.widened_eq_real (suit : Suits (some .real) value) :
    ∃ x, Function.widened (some .real) value = .real x := by
  -- It is a real number already, or an integer that is converted to one.
  cases value <;> simp_all [Suits, Value.type, Function.widened, Value.converted]

end Suits

namespace Builtin

variable {places : Nat} {builtin : Builtin} {arguments : List Value} {value : Value}

/-- Whether an outcome is a failure for what is refused, and a value of the right type otherwise,
unless the function breaks down. -/
structure Answers (places : Nat) (builtin : Builtin) (arguments : List Value)
    (outcome : Except EvalError Value) : Prop where
  /-- What is refused has no value. -/
  refused : builtin.Refuses arguments → ∃ error, outcome = .error error
  /-- What is not refused has one, if the function does not break down. -/
  taken : ¬builtin.Refuses arguments → ¬builtin.Breaks places arguments →
    ∃ value, outcome = .ok value ∧ ∀ type, builtin.returnType = some type → value.type = type

/-- A value of the right type answers what is not refused. -/
theorem Answers.ok (taken : ¬builtin.Refuses arguments)
    (typed : ∀ type, builtin.returnType = some type → value.type = type) :
    builtin.Answers places arguments (.ok value) :=
  ⟨fun refused => absurd refused taken, fun _ _ => ⟨value, rfl, typed⟩⟩

/-- A failure answers what is refused. -/
theorem Answers.error {reason : EvalError} (refused : builtin.Refuses arguments) :
    builtin.Answers places arguments (.error reason) :=
  ⟨fun _ => ⟨reason, rfl⟩, fun taken => absurd refused taken⟩

/-- The item at a place is refused exactly where there is a list with items and none is there. -/
theorem answers_itemOf (items : List Value) (index : Int64) :
    item.Answers places [.list items, .integer index] (itemOf items index) := by
  -- An index is negative where the integer that it stands for is.
  have negative : index < 0 ↔ index.toInt < 0 := Int64.lt_iff_toInt_lt
  have typed (value : Value) (type : ValueType) (declared : item.returnType = some type) :
      value.type = type := by cases declared
  unfold itemOf
  by_cases none : items.isEmpty
  · rw [if_pos none]
    exact .ok (fun refused => refused.1 (List.isEmpty_iff.mp none)) (typed _)
  rw [if_neg none]
  have some : items ≠ [] := by simpa using none
  -- An index misses the items in front of them or behind them.
  by_cases before : index < 0
  · have below := negative.mp before
    simp only [if_pos before]
    exact .error ⟨some, by omega⟩
  have above := mt negative.mpr before
  simp only [if_neg before]
  cases found : items[index.toInt.toNat]? with
  | none =>
    have behind := List.getElem?_eq_none_iff.mp found
    exact .error ⟨some, by omega⟩
  | some value =>
    obtain ⟨inside, -⟩ := List.getElem?_eq_some_iff.mp found
    exact .ok (fun refused => refused.2 (by omega)) (typed _)

/-- A character is refused exactly where its code is too large or kept for pairs. -/
theorem answers_characterOf (code : Int64) :
    character.Answers places [.integer code] (characterOf code) := by
  -- A code is negative where the integer that it stands for is.
  have negative : code < 0 ↔ code.toInt < 0 := Int64.lt_iff_toInt_lt
  have typed (text : String) (type : ValueType) (declared : character.returnType = some type) :
      (Value.string text).type = type := by
    cases declared
    rfl
  unfold characterOf
  by_cases without : code < 0
  · have below := negative.mp without
    rw [if_pos without]
    exact .ok (by simp only [Refuses]; omega) (typed _)
  have above := mt negative.mpr without
  -- A code that is not negative is looked at as it is, whichever numbers are used for it.
  have char : code.toInt.toNat.isValidChar ↔
      code.toInt < 0xD800 ∨ 0xDFFF < code.toInt ∧ code.toInt < 0x110000 := by
    unfold Nat.isValidChar
    omega
  rw [if_neg without]
  dsimp only
  by_cases valid : code.toInt.toNat.isValidChar
  · have inside := char.mp valid
    rw [if_pos valid]
    exact .ok (by simp only [Refuses]; omega) (typed _)
  · have outside := mt char.mpr valid
    rw [if_neg valid]
    exact .error (by simp only [Refuses]; omega)

/-- The code of the first character is refused exactly where there is none. -/
theorem answers_codePointOf (text : String) :
    codePoint.Answers places [.string text] (codePointOf text) := by
  -- The outcome hangs on whether the text has a first character.
  unfold codePointOf
  cases characters : text.toList with
  | nil =>
    have none : text = "" := String.toList_eq_nil_iff.mp characters
    exact .error none
  | cons first rest =>
    have some : text ≠ "" := by
      rintro rfl
      cases characters
    refine .ok some fun type declared => ?_
    cases declared
    rfl

/-- A text is refused exactly for lists and functions; writing a real number may break down. -/
theorem answers_textOf (places : Nat) (value : Value) :
    toText.Answers places [value] (textOf places value) := by
  have typed (text : String) (type : ValueType) (declared : toText.returnType = some type) :
      (Value.string text).type = type := by
    cases declared
    rfl
  -- Every kind of value but real numbers is decided by the kind alone.
  cases value with
  | integer | string | boolean => exact .ok (by simp [Refuses, Value.type]) (typed _)
  | list => exact .error (.inl rfl)
  | function => exact .error (.inr rfl)
  | real x =>
    -- A real number is never refused; what is left is to write it.
    exact ⟨by simp [Refuses, Value.type], fun _ sound => ⟨_, textOf_real sound, typed _⟩⟩

/-- What suits one parameter is one argument. -/
theorem suits_one {param : Option ValueType} (suit : List.Forall₂ Suits [param] arguments) :
    ∃ value, arguments = [value] ∧ Suits param value := by
  -- There is as much on one side as on the other.
  obtain ⟨value, rest, here, none, rfl⟩ := List.forall₂_cons_left_iff.mp suit
  obtain rfl := List.forall₂_nil_left_iff.mp none
  exact ⟨value, rfl, here⟩

/-- What suits two parameters are two arguments. -/
theorem suits_two {param param' : Option ValueType}
    (suit : List.Forall₂ Suits [param, param'] arguments) :
    ∃ value value', arguments = [value, value'] ∧ Suits param value ∧ Suits param' value' := by
  -- The first parameter takes the first argument, and the other one the rest.
  obtain ⟨value, rest, here, others, rfl⟩ := List.forall₂_cons_left_iff.mp suit
  obtain ⟨value', rfl, there⟩ := suits_one others
  exact ⟨value, value', rfl, here, there⟩

/-- No function breaks down on what it refuses. -/
theorem not_breaks_of_refuses (refused : builtin.Refuses arguments) :
    ¬builtin.Breaks places arguments := by
  -- Only texts of real numbers break down, and those are not refused.
  intro broken
  match builtin, arguments, broken with
  | toText, [.real _], _ => simp [Refuses, Value.type] at refused
  | toText, .real _ :: _ :: _, _ => exact refused

/-- The one function that may break down takes its argument as it is. -/
theorem breaks_widened (suit : List.Forall₂ Suits builtin.params arguments) :
    builtin.Breaks places (List.zipWith Function.widened builtin.params arguments) ↔
      builtin.Breaks places arguments := by
  -- The others never break down, whatever they are given.
  cases builtin with
  | toText =>
    obtain ⟨value, rfl, -⟩ := suits_one suit
    rfl
  | _ => exact Iff.rfl

/-- A function of one number has a number for every number. -/
theorem answers_onReal (builtin : Builtin) (compute : Float → Float) {value : Value}
    (taken : ¬builtin.Refuses [value]) (declared : builtin.returnType = some .real)
    (suit : Suits (some .real) value) :
    builtin.Answers places [value]
      (builtin.onReal compute [Function.widened (some .real) value]) := by
  -- The argument is a real number once widened, and so is what is computed of it.
  obtain ⟨x, number⟩ := suit.widened_eq_real
  rw [number]
  refine .ok taken fun type same => ?_
  rw [declared] at same
  cases same
  rfl

/-- A built-in function that is given what its parameters ask for answers as it should. -/
theorem answers_apply (places : Nat) (builtin : Builtin)
    (suit : List.Forall₂ Suits builtin.params arguments) (room : Storable arguments) :
    builtin.Answers places arguments
      (builtin.apply places (List.zipWith Function.widened builtin.params arguments)) := by
  -- There are as many arguments as parameters, and each of them shows what it is by suiting.
  cases builtin with
  | length =>
    obtain ⟨_, rfl, here⟩ := suits_one suit
    obtain ⟨items, rfl⟩ := here.eq_list
    have few : lengthOf items = .ok (.integer (Int64.ofNat items.length)) :=
      if_pos (room items (List.mem_singleton_self _))
    change length.Answers places _ (lengthOf items)
    rw [few]
    exact .ok id fun type declared => by cases declared; rfl
  | first =>
    obtain ⟨_, rfl, here⟩ := suits_one suit
    obtain ⟨items, rfl⟩ := here.eq_list
    exact .ok id fun type declared => by cases declared
  | rest =>
    obtain ⟨_, rfl, here⟩ := suits_one suit
    obtain ⟨items, rfl⟩ := here.eq_list
    exact .ok id fun type declared => by cases declared; rfl
  | item =>
    obtain ⟨_, _, rfl, here, there⟩ := suits_two suit
    obtain ⟨items, rfl⟩ := here.eq_list
    obtain ⟨index, rfl⟩ := there.eq_integer
    exact answers_itemOf items index
  | concat =>
    obtain ⟨_, _, rfl, here, there⟩ := suits_two suit
    obtain ⟨front, rfl⟩ := here.eq_list
    obtain ⟨back, rfl⟩ := there.eq_list
    exact .ok id fun type declared => by cases declared; rfl
  | append =>
    obtain ⟨_, added, rfl, here, -⟩ := suits_two suit
    obtain ⟨items, rfl⟩ := here.eq_list
    exact .ok id fun type declared => by cases declared; rfl
  | character =>
    obtain ⟨_, rfl, here⟩ := suits_one suit
    obtain ⟨code, rfl⟩ := here.eq_integer
    exact answers_characterOf code
  | codePoint =>
    obtain ⟨_, rfl, here⟩ := suits_one suit
    obtain ⟨text, rfl⟩ := here.eq_string
    exact answers_codePointOf text
  | toText =>
    obtain ⟨value, rfl, -⟩ := suits_one suit
    exact answers_textOf places value
  | toReal =>
    obtain ⟨_, rfl, here⟩ := suits_one suit
    obtain ⟨n, rfl⟩ := here.eq_integer
    exact .ok id fun type declared => by cases declared; rfl
  | squareRoot | sine | cosine | tangent | logarithm | exponential =>
    obtain ⟨_, rfl, here⟩ := suits_one suit
    exact answers_onReal _ _ id rfl here

end Builtin

namespace Interpreter

variable {interpreter : Interpreter} {host : Host} {builtin : Builtin} {arguments : List Value}

/-- Without a wish to stop and a limit, a call is its checks and what the function does. -/
theorem outcome_call_builtin (awake : interpreter.world.interrupted = false)
    (unlimited : interpreter.settings.maxDepth = none) :
    (interpreter.call host (.builtin builtin) arguments).1 =
      ((Function.builtin builtin).checkArguments arguments >>= fun checked =>
        builtin.apply interpreter.settings.places checked >>=
          (Function.builtin builtin).checkResult).mapError Stop.failed := by
  -- Where no limit is set, no call is one too many.
  have room : (interpreter.context host).full? interpreter.world = none := by
    simp [Context.full?, Interpreter.context, unlimited]
  rw [Interpreter.call, perform_eq]
  simp only [Evaluation.outcome, Evaluation.call_apply, awake, Bool.false_eq_true, if_false, room]
  -- Of all that a call has to pass, the checks of its arguments and its result are left.
  cases (Function.builtin builtin).checkArguments arguments with
  | error error => rfl
  | ok checked =>
    have ran (world : World) :
        Evaluation.run (interpreter.context host) (Evaluation.eval (interpreter.context host) steps)
          (.builtin builtin) checked world =
        Evaluation.ofExcept (builtin.apply interpreter.settings.places checked) world := rfl
    simp only [ran, ok_bind]
    cases builtin.apply interpreter.settings.places checked with
    | error error => rfl
    | ok result =>
      simp only [Evaluation.ofExcept, Pure.pure, EStateM.pure, ok_bind]
      cases (Function.builtin builtin).checkResult result <;> rfl

/-- Whether a call of a built-in function fails only where it should or breaks down. -/
structure FailsOnly (places : Nat) (builtin : Builtin) (arguments : List Value)
    (outcome : Except Stop Value) : Prop where
  /-- It fails for the number of its arguments if that is wrong. -/
  arity : (∃ name expected found, outcome = .error (.failed (.wrongArity name expected found))) ↔
    arguments.length ≠ (Function.builtin builtin).arity
  /-- It fails for the type of an argument if one does not suit. -/
  types : (∃ place expected found,
      outcome = .error (.failed (.typeMismatch place expected found))) ↔
    arguments.length = (Function.builtin builtin).arity ∧
      ¬List.Forall₂ Suits builtin.params arguments
  /-- It fails as one that does not take its arguments if it refuses them. -/
  refused : List.Forall₂ Suits builtin.params arguments → builtin.Refuses arguments →
    ∃ error, outcome = .error (.failed error) ∧ error.kind = "TypeError"
  /-- It breaks down if it is to write a number with more places than numbers have. -/
  broken : List.Forall₂ Suits builtin.params arguments → builtin.Breaks places arguments →
    outcome = .error (.failed (.unwritable places))
  /-- Otherwise there is a value, which has the declared type. -/
  taken : List.Forall₂ Suits builtin.params arguments → ¬builtin.Refuses arguments →
    ¬builtin.Breaks places arguments →
    ∃ value, outcome = .ok value ∧ ∀ type, builtin.returnType = some type → value.type = type

/-- With arguments of the right types only refusals and the breakdown are left. -/
theorem FailsOnly.of_suit {places : Nat} {outcome : Except Stop Value}
    (suit : List.Forall₂ Suits builtin.params arguments)
    (fails : ∀ error, outcome = .error (.failed error) →
      error.Refusal ∨ error = .unwritable places)
    (refused : builtin.Refuses arguments →
      ∃ error, outcome = .error (.failed error) ∧ error.Refusal)
    (broken : builtin.Breaks places arguments → outcome = .error (.failed (.unwritable places)))
    (taken : ¬builtin.Refuses arguments → ¬builtin.Breaks places arguments →
      ∃ value, outcome = .ok value ∧ ∀ type, builtin.returnType = some type → value.type = type) :
    FailsOnly places builtin arguments outcome := by
  have lengths : arguments.length = (Function.builtin builtin).arity := suit.length_eq.symm
  -- Neither of the two is for the number of arguments or for the type of one of them.
  constructor
  case arity =>
    refine ⟨?_, fun differ => absurd lengths differ⟩
    rintro ⟨_, _, _, failed⟩
    rcases fails _ failed with refusal | ⟨⟨⟩⟩
    cases refusal
  case types =>
    refine ⟨?_, fun unfit => absurd suit unfit.2⟩
    rintro ⟨_, _, _, failed⟩
    rcases fails _ failed with refusal | ⟨⟨⟩⟩
    cases refusal
  case refused =>
    intro _ refuses
    obtain ⟨error, failed, refusal⟩ := refused refuses
    exact ⟨error, failed, refusal.kind⟩
  case broken => exact fun _ => broken
  case taken => exact fun _ => taken

/-- A call of a built-in function fails only where it should, or it breaks down. -/
theorem failsOnly_call (awake : interpreter.world.interrupted = false)
    (unlimited : interpreter.settings.maxDepth = none) (room : Builtin.Storable arguments) :
    FailsOnly interpreter.settings.places builtin arguments
      (interpreter.call host (.builtin builtin) arguments).1 := by
  rw [outcome_call_builtin awake unlimited]
  have lengths (suit : List.Forall₂ Suits builtin.params arguments) :
      arguments.length = (Function.builtin builtin).arity := suit.length_eq.symm
  -- A call is refused for the number of its arguments, for one of their types, or let through.
  rcases Function.checkArguments_cases (.builtin builtin) arguments with
    ⟨differ, name, expected, found, failed⟩ | ⟨same, unfit, place, expected, found, failed⟩ |
      ⟨suit, passed⟩
  · -- The number of arguments is wrong, so that they cannot suit.
    rw [failed]
    exact ⟨⟨fun _ => differ, fun _ => ⟨_, _, _, rfl⟩⟩,
      ⟨fun ⟨_, _, _, other⟩ => (by cases other), fun wrong => absurd wrong.1 differ⟩,
      fun suit => absurd (lengths suit) differ, fun suit => absurd (lengths suit) differ,
      fun suit => absurd (lengths suit) differ⟩
  · -- There are as many as there should be, and one of them does not suit.
    rw [failed]
    exact ⟨⟨fun ⟨_, _, _, other⟩ => (by cases other), fun differ => absurd same differ⟩,
      ⟨fun _ => ⟨same, unfit⟩, fun _ => ⟨_, _, _, rfl⟩⟩,
      fun suit => absurd suit unfit, fun suit => absurd suit unfit,
      fun suit => absurd suit unfit⟩
  · -- The checks are passed, and all depends on what the function does.
    have answers := Builtin.answers_apply interpreter.settings.places builtin suit room
    have fails := Builtin.apply_failsAs interpreter.settings.places builtin
      (List.zipWith Function.widened builtin.params arguments)
    rw [passed, ok_bind]
    change FailsOnly interpreter.settings.places builtin arguments
      ((builtin.apply interpreter.settings.places
        (List.zipWith Function.widened builtin.params arguments) >>=
          (Function.builtin builtin).checkResult).mapError Stop.failed)
    by_cases broken : builtin.Breaks interpreter.settings.places arguments
    · -- A breakdown is passed on as it is.
      have unrefused : ¬builtin.Refuses arguments :=
        fun refused => Builtin.not_breaks_of_refuses refused broken
      rw [Builtin.apply_of_breaks ((Builtin.breaks_widened suit).mpr broken), error_bind,
        error_mapError]
      refine .of_suit suit ?_ (fun refused => absurd refused unrefused) (fun _ => rfl)
        (fun _ sound => absurd broken sound)
      rintro _ ⟨⟩
      exact .inr rfl
    have refusing := Builtin.apply_refusing (mt (Builtin.breaks_widened suit).mp broken)
    -- What the function refuses it fails for, and whatever else it yields passes the last check.
    by_cases refused : builtin.Refuses arguments
    · obtain ⟨error, failed⟩ := answers.refused refused
      rw [failed, error_bind, error_mapError]
      refine .of_suit suit ?_ (fun _ => ⟨error, rfl, refusing error failed⟩)
        (fun breaks => absurd breaks broken) (fun taken => absurd refused taken)
      rintro _ ⟨⟩
      exact fails error failed
    · obtain ⟨result, answered, typed⟩ := answers.taken refused broken
      obtain ⟨value, checked⟩ :
          ∃ value, (Function.builtin builtin).checkResult result = .ok value :=
        Function.checkResult_of_type typed
      rw [answered, ok_bind, checked, ok_mapError]
      exact .of_suit suit nofun (fun taken => absurd taken refused)
        (fun breaks => absurd breaks broken)
        fun _ _ => ⟨value, rfl, Function.type_of_checkResult checked⟩

/--
The functions of the library fail only where they should, but for one that may break down.

Called past all checks, on any arguments, a function yields a value or refuses what it is given; the
only gap is the text of a finite real number with more places than numbers can be written with.
-/
theorem library_failsOnly (awake : interpreter.world.interrupted = false)
    (unlimited : interpreter.settings.maxDepth = none) (host : Host) {name : Name}
    {function : Function} (bound : (name, .function function) ∈ library) :
    ∃ builtin, name = Name.ofText builtin.name ∧ function = .builtin builtin ∧
      (∀ arguments, Builtin.Storable arguments →
        FailsOnly interpreter.settings.places builtin arguments
          (interpreter.call host function arguments).1) ∧
      ∀ places arguments,
        (builtin.Breaks places arguments →
          builtin.apply places arguments = .error (.unwritable places)) ∧
        (¬builtin.Breaks places arguments →
          (∃ value, builtin.apply places arguments = .ok value) ∨
            ∃ error, builtin.apply places arguments = .error error ∧
              error.kind = "TypeError") := by
  -- The functions among what is bound are those that are built in, under their names.
  obtain ⟨builtin, rfl, rfl⟩ :
      ∃ builtin : Builtin, name = Name.ofText builtin.name ∧ function = .builtin builtin := by
    simpa [library, Builtin.mem_all, eq_comm] using bound
  refine ⟨builtin, rfl, rfl, fun arguments => failsOnly_call awake unlimited,
    fun places arguments => ⟨Builtin.apply_of_breaks, fun sound => ?_⟩⟩
  cases answer : builtin.apply places arguments with
  | ok value => exact .inl ⟨value, rfl⟩
  | error error => exact .inr ⟨error, rfl, (Builtin.apply_refusing sound error answer).kind⟩

/-- The second of two items is there, and the third is refused. -/
theorem library_failsOnly_item :
    let interpreter : Interpreter := ⟨{}, '.', .initial, []⟩
    let host : Host := fun _ _ => ⟨.ok .emptyList, false⟩
    let items : Value := .list [.integer 7, .integer 8]
    (∃ value, (interpreter.call host (.builtin .item) [items, .integer 1]).1 = .ok value) ∧
      (∃ error,
        (interpreter.call host (.builtin .item) [items, .integer 2]).1 = .error (.failed error) ∧
          error.kind = "TypeError") ∧
      ∃ error, Builtin.item.apply 6 [items] = .error error ∧ error.kind = "TypeError" := by
  intro interpreter host items
  obtain ⟨builtin, -, same, calls, direct⟩ :=
    @library_failsOnly interpreter rfl rfl host (Name.ofText "NTH") (.builtin .item)
      (by simp [library, Builtin.all, Builtin.name])
  cases same
  -- Both indexes suit, and both lists are short.
  have suit (index : Int64) :
      List.Forall₂ Suits Builtin.item.params [items, .integer index] :=
    .cons (fun _ declared => .inl (by cases declared; rfl))
      (.cons (fun _ declared => .inl (by cases declared; rfl)) .nil)
  have room (index : Int64) : Builtin.Storable [items, .integer index] := by
    intro found member
    have : found = [.integer 7, .integer 8] := by simpa [items] using member
    simp [this]
  refine ⟨?_, ?_, ?_⟩
  · obtain ⟨value, answered, -⟩ := (calls _ (room 1)).taken (suit 1)
      (fun refused => refused.2 (by decide)) id
    exact ⟨value, answered⟩
  · exact (calls _ (room 2)).refused (suit 2) ⟨by simp, by decide⟩
  · -- Called directly with too few arguments, the function refuses them.
    rcases (direct 6 [items]).2 id with ⟨value, answered⟩ | refused
    · cases answered
    · exact refused

/-- A half more than one, which is neither refused nor of the wrong type, has no text with more
places than numbers have: the program breaks down instead. -/
theorem call_toText_unwritable :
    let interpreter : Interpreter := ⟨{ places := 0x10000 }, '.', .initial, []⟩
    let host : Host := fun _ _ => ⟨.ok .emptyList, false⟩
    let half : Value := .real (Float.ofBits 0x3FF8000000000000)
    List.Forall₂ Suits Builtin.toText.params [half] ∧ ¬Builtin.toText.Refuses [half] ∧
      (interpreter.call host (.builtin .toText) [half]).1 =
        .error (.failed (.unwritable 0x10000)) ∧
      Builtin.toText.apply 0x10000 [half] = .error (.unwritable 0x10000) ∧
      (EvalError.unwritable 0x10000).kind ≠ "TypeError" := by
  intro interpreter host half
  have broken : Builtin.toText.Breaks 0x10000 [half] := ⟨by decide, by decide, by decide⟩
  have direct := Builtin.apply_of_breaks broken
  refine ⟨.cons nofun .nil, by simp [half, Builtin.Refuses, Value.type], ?_, direct, by decide⟩
  -- The argument passes the checks as it is.
  rw [outcome_call_builtin rfl rfl]
  exact congrArg (fun answer => (answer >>= (Function.builtin .toText).checkResult).mapError
    Stop.failed) direct

end Interpreter

end Scriptlet

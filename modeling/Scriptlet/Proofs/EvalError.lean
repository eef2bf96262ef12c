import Scriptlet.Machine.Call
import Scriptlet.Operator
import Scriptlet.Proofs.Outcome

/-!
Which failures can come of what: operators, library functions and the checks of a call.

Interruption, the depth limit and nodes out of shape are left to the evaluator; nothing else fails
in one of these ways.
-/

namespace Scriptlet

/-- Whether a failure is none of those that the evaluator alone is to raise. -/
def EvalError.Plain : EvalError → Prop
  | .interrupted | .tooDeep _ | .badShape _ => False
  | _ => True

/-- Whether a failure is that of a function which does not take its arguments. -/
def EvalError.Refusal : EvalError → Prop
  | .badArgument .. | .noConversion .. => True
  | _ => False

/-- A refusal is plain: the evaluator leaves it to the functions. -/
theorem EvalError.Refusal.plain {error : EvalError} (refusal : error.Refusal) : error.Plain := by
  -- None of the failures that are not plain is a refusal.
  cases error <;> trivial

/-- Whatever is refused is told of as a mistake in types. -/
theorem EvalError.Refusal.kind {error : EvalError} (refusal : error.Refusal) :
    error.kind = "TypeError" := by
  -- Both refusals are; all other failures are none.
  cases error <;> first | rfl | cases refusal

/-- Whether an outcome that fails does so plainly. -/
def FailsPlainly {α : Type} (outcome : Except EvalError α) : Prop :=
  ∀ error, outcome = .error error → error.Plain

namespace FailsPlainly

variable {α β : Type} {outcome : Except EvalError α}

/-- What does not fail does not fail otherwise than plainly. -/
theorem ok (found : α) : FailsPlainly (.ok found) :=
  FailsAs.ok found

/-- A plain failure is one. -/
theorem error {failure : EvalError} (plain : failure.Plain) :
    FailsPlainly (.error failure : Except EvalError α) :=
  FailsAs.error plain

/-- Steps that fail plainly do so in a row. -/
theorem bind {next : α → Except EvalError β} (first : FailsPlainly outcome)
    (rest : ∀ found, FailsPlainly (next found)) : FailsPlainly (outcome >>= next) :=
  FailsAs.bind first rest

/-- What is made of a result has no say in why there is none. -/
theorem map {change : α → β} (plainly : FailsPlainly outcome) :
    FailsPlainly (outcome.map change) :=
  FailsAs.map plainly

/-- Of two outcomes that fail plainly, either does so. -/
theorem ite {condition : Prop} [Decidable condition] {other : Except EvalError α}
    (here : FailsPlainly outcome) (there : FailsPlainly other) :
    FailsPlainly (if condition then outcome else other) :=
  FailsAs.ite here there

end FailsPlainly

namespace Operator

/-- Operators that do arithmetic. -/
def arithmetical : List Operation :=
  [.add, .subtract, .multiply, .divide, .power]

/-- Operators that compare. -/
def comparative : List Operation :=
  [.equal, .notEqual, .greater, .less, .greaterOrEqual, .lessOrEqual]

variable {operation : Operation}

/-- Arithmetic fails plainly if the operator does arithmetic. -/
theorem arithmetic_failsPlainly (known : operation ∈ arithmetical) (left right : Value) :
    FailsPlainly (arithmetic operation left right) := by
  have integers (m n : Int64) : FailsPlainly (onIntegers operation m n) := by
    have power : FailsPlainly (integerPower m n) := by
      -- Of all powers, only those of zero with a negative exponent are missing.
      unfold integerPower
      exact .ite (.ite (.error trivial) (.ite (.ok _) (.ite (.ok _) (.ok _)))) (.ok _)
    -- What is no arithmetic is excluded by the list of operators.
    cases operation
    case divide => exact .ite (.error trivial) (.ok _)
    case power => exact power
    case add | subtract | multiply => exact .ok _
    all_goals simp [arithmetical] at known
  have reals (x y : Float) : FailsPlainly (onReals operation x y) := by
    -- Real numbers do the same, but their powers are never missing.
    cases operation
    case divide => exact .ite (.error trivial) (.ok _)
    case add | subtract | multiply | power => exact .ok _
    all_goals simp [arithmetical] at known
  unfold arithmetic onNumbers
  split
  · -- Two integers are computed with as such.
    exact (integers _ _).map
  · -- Two texts can be added, and nothing else can be done with them.
    exact .ite (.ok _) (.error trivial)
  · -- All other pairs are computed with as real numbers, if both are numbers.
    split
    · exact (reals _ _).map
    · exact .error trivial

/-- Comparison fails plainly if the operator compares. -/
theorem compareValues_failsPlainly (known : operation ∈ comparative) (left right : Value) :
    FailsPlainly (compareValues operation left right) := by
  have ordered (order : Option Ordering) : FailsPlainly (holds operation order) := by
    -- What compares gives a verdict for every order, even if there is none.
    cases operation
    case equal | notEqual | greater | less | greaterOrEqual | lessOrEqual => exact .ok _
    all_goals simp [comparative] at known
  have truths (b c : Bool) : FailsPlainly (compareBooleans operation b c) := by
    unfold compareBooleans
    -- Truth values are equal or not; they have no order to ask for.
    split
    · exact .ok _
    · exact .ok _
    · exact .error trivial
  unfold compareValues
  split
  · -- Integers, texts and truth values are compared with their like.
    exact ordered _
  · exact ordered _
  · exact truths _ _
  · -- All else is compared as real numbers, if both sides are numbers.
    split
    · exact ordered _
    · exact .error trivial

/-- Operators between two operands fail plainly, if they are nothing but operators. -/
theorem applyBinary_failsPlainly (tolerance : Float) (strict : operation.isSpecial = false)
    (two : operation.arity = .fixed 2) (left right : Value) :
    FailsPlainly (applyBinary tolerance operation left right) := by
  have close : FailsPlainly (compareClose tolerance left right) := by
    -- Values that are no numbers are not close to anything.
    unfold compareClose
    split
    · exact .ok _
    · exact .error trivial
  have among : FailsPlainly (isMember left right) := by
    -- Only lists have members.
    unfold isMember
    split
    · exact .ok _
    · exact .error trivial
  -- The operators are those of arithmetic, comparisons, and two that are like no other.
  cases operation
  case add | subtract | multiply | divide | power =>
    exact arithmetic_failsPlainly (by decide) left right
  case equal | notEqual | greater | less | greaterOrEqual | lessOrEqual =>
    exact (compareValues_failsPlainly (by decide) left right).map
  case approximatelyEqual => exact close.map
  case member => exact among.map
  all_goals simp [Operation.isSpecial, Operation.arity] at strict two

/-- Operators in front of an operand fail plainly. -/
theorem applyUnary_failsPlainly (one : operation.arity = .fixed 1) (operand : Value) :
    FailsPlainly (applyUnary operation operand) := by
  -- Of the two operators in front of an operand, each knows the values that it applies to.
  cases operation
  case negate | negation =>
    cases operand
    all_goals first | exact .ok _ | exact .error trivial
  all_goals simp [Operation.arity] at one

end Operator

namespace Builtin

variable {arguments : List Value}

/-- Whether a built-in function that fails does so as one that does not take its arguments. -/
abbrev Refusing {α : Type} (outcome : Except EvalError α) : Prop :=
  FailsAs EvalError.Refusal outcome

/-- Arguments of a built-in function that are missing or of another type are refused. -/
theorem argument_refusing {α : Type} (builtin : Builtin) (required : ValueType)
    (read : Value → Option α) (arguments : List Value) (position : Nat) :
    Refusing (builtin.argument required read arguments position) := by
  -- The argument is missing, cannot be read, or is what is read.
  unfold argument
  split
  · exact .ok _
  · exact .error trivial

/-- Functions of one real number refuse what is no number, and nothing else. -/
theorem onReal_refusing (builtin : Builtin) (compute : Float → Float) :
    Refusing (builtin.onReal compute arguments) :=
  -- The number is read first, and then there is no way to fail any more.
  (argument_refusing builtin .real Value.real? arguments 0).bind fun _ => .ok _

/-- Whether a built-in function breaks down, being told to write a finite number with more places
than numbers can have. -/
def Breaks (places : Nat) : Builtin → List Value → Prop
  | toText, .real x :: _ => x.isNaN = false ∧ x.isInf = false ∧ Decimal.placesLimit < places
  | _, _ => False

/-- A function that breaks down tells how many places were asked for. -/
theorem apply_of_breaks {places : Nat} {builtin : Builtin}
    (broken : builtin.Breaks places arguments) :
    builtin.apply places arguments = .error (.unwritable places) := by
  -- No function but the one breaks down, and that one only on a real number.
  match builtin, arguments, broken with
  | toText, .real x :: _, broken =>
    have unwritable : Decimal.writable places x = false := Decimal.writable_eq_false_iff.mpr broken
    simp [apply, textOf, Value.toText, unwritable]

/-- A number that the program does not break down at has a text. -/
theorem textOf_real {places : Nat} {x : Float} (sound : ¬toText.Breaks places [.real x]) :
    textOf places (.real x) = .ok (.string ((Value.real x).text places)) := by
  -- To break down is to be unable to write the number.
  have written : Decimal.writable places x = true := by
    rw [← Bool.not_eq_false, Decimal.writable_eq_false_iff]
    exact sound
  exact if_pos written

/-- A value without a text is refused, unless it is a number at which the program breaks down. -/
theorem textOf_refusing {places : Nat} {value : Value}
    -- Breaking down aside, only lists and functions have no text.
    (sound : ¬toText.Breaks places [value]) : Refusing (textOf places value) := by
  cases value with
  -- What stands for itself has a text whatever the number of places is.
  | integer | boolean | string => exact .ok _
  | list | function => exact .error trivial
  | real x =>
    rw [textOf_real sound]
    exact .ok _

/-- A built-in function that does not break down fails only as one that does not take what it is
given. -/
theorem apply_refusing {places : Nat} {builtin : Builtin}
    (sound : ¬builtin.Breaks places arguments) : Refusing (builtin.apply places arguments) := by
  have lists (builtin : Builtin) (position : Nat) :
      Refusing (builtin.listArgument arguments position) := argument_refusing _ _ _ _ _
  have integers (builtin : Builtin) (position : Nat) :
      Refusing (builtin.integerArgument arguments position) := argument_refusing _ _ _ _ _
  -- Each function reads its arguments first, and then may refuse them.
  cases builtin with
  | length =>
    -- Of a list there may be too many items for an integer to count.
    refine (lists length 0).bind fun items => ?_
    exact .ite (.ok _) (.error trivial)
  | first => exact (lists first 0).bind fun _ => .ok _
  | rest => exact (lists rest 0).bind fun _ => .ok _
  | item =>
    refine (lists item 0).bind fun items => (integers item 1).bind fun index => ?_
    -- The empty list has an item everywhere; of others the place is looked up.
    refine .ite (.ok _) ?_
    split
    · exact .ok _
    · exact .error trivial
  | concat => exact (lists concat 0).bind fun _ => (lists concat 1).bind fun _ => .ok _
  | append =>
    -- The second argument may be missing, whatever its type would be.
    refine (lists append 0).bind fun items => ?_
    split
    · exact .ok _
    · exact .error trivial
  | character =>
    refine (integers character 0).bind fun code => ?_
    -- Below zero there is no character to ask for, and above only some codes have one.
    exact .ite (.ok _) (.ite (.ok _) (.error trivial))
  | codePoint =>
    refine (argument_refusing codePoint .string Value.string? arguments 0).bind fun text => ?_
    unfold codePointOf
    split
    · exact .ok _
    · exact .error trivial
  | toText =>
    cases arguments with
    | nil => exact .error trivial
    | cons value rest =>
      -- What stands behind the first argument is not looked at.
      exact textOf_refusing (by cases value <;> exact sound)
  | toReal => exact (integers toReal 0).bind fun _ => .ok _
  | squareRoot => exact onReal_refusing squareRoot Float.sqrt
  | sine => exact onReal_refusing sine Float.sin
  | cosine => exact onReal_refusing cosine Float.cos
  | tangent => exact onReal_refusing tangent Float.tan
  | logarithm => exact onReal_refusing logarithm Float.log
  | exponential => exact onReal_refusing exponential Float.exp

/-- Whatever it is given, a built-in function refuses it or breaks down if it fails. -/
theorem apply_failsAs (places : Nat) (builtin : Builtin) (arguments : List Value) :
    FailsAs (fun error => error.Refusal ∨ error = .unwritable places)
      (builtin.apply places arguments) := by
  by_cases broken : builtin.Breaks places arguments
  · -- A breakdown leaves nothing else to look at.
    rw [apply_of_breaks broken]
    exact .error (.inr rfl)
  · exact (apply_refusing broken).mono fun _ => .inl

/-- Built-in functions fail plainly. -/
theorem apply_failsPlainly (places : Nat) (builtin : Builtin) (arguments : List Value) :
    FailsPlainly (builtin.apply places arguments) := by
  refine (apply_failsAs places builtin arguments).mono fun error reason => ?_
  -- A breakdown is plain as well: it has nothing to do with depth or with the wish to stop.
  rcases reason with refusal | rfl
  · exact refusal.plain
  · trivial

end Builtin

namespace Function

/-- The conversion of arguments fails plainly. -/
theorem convertArguments_failsPlainly (function : Function) (position : Nat)
    (params : List (Option ValueType)) (arguments : List Value) :
    FailsPlainly (function.convertArguments position params arguments) := by
  induction arguments generalizing position params with
  -- If no arguments are left, none of those that remain to be declared is looked at.
  | nil => rcases params with _ | ⟨_ | required, params⟩ <;> exact .ok _
  | cons value rest ih =>
    rcases params with _ | ⟨_ | required, params⟩
    · exact .ok _
    · exact (ih (position + 1) params).bind fun _ => .ok _
    · -- The value itself may be refused, or one of those behind it.
      exact .ite (.error trivial) ((ih (position + 1) params).bind fun _ => .ok _)

/-- The check of arguments fails plainly. -/
theorem checkArguments_failsPlainly (function : Function) (arguments : List Value) :
    FailsPlainly (function.checkArguments arguments) := by
  -- If there are as many as there should be, they are converted one by one.
  exact .ite (.error trivial) (function.convertArguments_failsPlainly 1 _ arguments)

/-- The check of a result fails plainly. -/
theorem checkResult_failsPlainly (function : Function) (result : Value) :
    FailsPlainly (function.checkResult result) := by
  -- A function that declares no type of its result takes it as it is.
  unfold checkResult
  split
  · exact .ok _
  · exact .ite (.ok _) (.error trivial)

end Function

end Scriptlet

import Scriptlet.EvalError
import Scriptlet.Value.Basic

/-! What operators make of the values of their operands. -/

namespace Scriptlet.Operator

/-! Arithmetic: integers wrap around, and everything else is computed with doubles. -/

/-- The error of an operator whose node should not have passed for one. -/
def misplaced {α : Type} (operation : Operation) (fault : ShapeFault) : Except EvalError α :=
  .error (.badShape ⟨operation, fault⟩)

/-- The error of an operator that does not apply to two values. -/
def unfit {α : Type} (operation : Operation) (left right : Value) : Except EvalError α :=
  .error (.badOperands operation left.type right.type)

/-- The product of a number and a power of another, by repeated squaring. -/
def powerFrom (product square : Int64) (exponent : Nat) : Int64 :=
  if exponent = 0 then product
  else
    let next := if exponent % 2 = 1 then product * square else product
    powerFrom next (square * square) (exponent / 2)
termination_by exponent
decreasing_by omega

/-- A number to the power of another; a negative exponent gives a quotient cut to an integer. -/
def integerPower (base exponent : Int64) : Except EvalError Int64 :=
  if exponent < 0 then
    if base == 0 then .error .divisionByZero
    else if base == 1 then .ok 1
    else if base == -1 then .ok (if exponent % 2 == 0 then 1 else -1)
    else .ok 0
  else .ok (powerFrom 1 base exponent.toInt.toNat)

/-- Arithmetic on integers. -/
def onIntegers (operation : Operation) (left right : Int64) : Except EvalError Int64 :=
  match operation with
  | .add => .ok (left + right)
  | .subtract => .ok (left - right)
  | .multiply => .ok (left * right)
  | .divide => if right == 0 then .error .divisionByZero else .ok (left / right)
  | .power => integerPower left right
  | _ => misplaced operation .notArithmetic

/-- Arithmetic on real numbers; a zero of either sign divides nothing. -/
def onReals (operation : Operation) (left right : Float) : Except EvalError Float :=
  match operation with
  | .add => .ok (left + right)
  | .subtract => .ok (left - right)
  | .multiply => .ok (left * right)
  | .divide => if right == 0.0 then .error .divisionByZero else .ok (left / right)
  | .power => .ok (left.pow right)
  | _ => misplaced operation .notArithmetic

/-- Arithmetic on numbers of which one at least is real. -/
def onNumbers (operation : Operation) (left right : Value) : Except EvalError Value :=
  match left.real?, right.real? with
  | some x, some y => (onReals operation x y).map .real
  | _, _ => unfit operation left right

/-- Arithmetic on values; texts can be added. -/
def arithmetic (operation : Operation) (left right : Value) : Except EvalError Value :=
  match left, right with
  | .integer m, .integer n => (onIntegers operation m n).map .integer
  | .string s, .string t =>
    if operation == .add then .ok (.string (s ++ t)) else unfit operation left right
  | _, _ => onNumbers operation left right

/-! Comparisons, equality up to a tolerance, and membership. -/

/-- The order of two integers. -/
def orderIntegers (left right : Int64) : Ordering :=
  if left < right then .lt else if left == right then .eq else .gt

/-- The order of two texts, by code points. -/
def orderTexts (left right : String) : Ordering :=
  if left < right then .lt else if left == right then .eq else .gt

/-- The order of two real numbers, if neither is NaN. -/
def orderReals (left right : Float) : Option Ordering :=
  if left < right then some .lt
  else if left == right then some .eq
  else if right < left then some .gt
  else none

/-- Whether a comparison holds for values in this order; without an order only difference holds. -/
def holds (operation : Operation) (order : Option Ordering) : Except EvalError Bool :=
  match operation with
  | .equal => .ok (order == some .eq)
  | .notEqual => .ok (order != some .eq)
  | .greater => .ok (order == some .gt)
  | .less => .ok (order == some .lt)
  | .greaterOrEqual => .ok (order == some .gt || order == some .eq)
  | .lessOrEqual => .ok (order == some .lt || order == some .eq)
  | _ => misplaced operation .notComparison

/-- Compare truth values, which are equal or not and have no order. -/
def compareBooleans (operation : Operation) (left right : Bool) : Except EvalError Bool :=
  match operation with
  | .equal => .ok (left == right)
  | .notEqual => .ok (left != right)
  | _ => .error (.badOperand operation .boolean)

/-- Compare two values. -/
def compareValues (operation : Operation) (left right : Value) : Except EvalError Bool :=
  match left, right with
  | .integer m, .integer n => holds operation (some (orderIntegers m n))
  | .string s, .string t => holds operation (some (orderTexts s t))
  | .boolean b, .boolean c => compareBooleans operation b c
  | _, _ =>
    match left.real?, right.real? with
    | some x, some y => holds operation (orderReals x y)
    | _, _ => unfit operation left right

/-- The larger of two numbers; NaN counts only beside another NaN. -/
def larger (left right : Float) : Float :=
  if left.isNaN then right
  else if right.isNaN then left
  else if left < right then right
  else left

/-- Whether two numbers differ by no more than the tolerance times the largest of them and one. -/
def close (tolerance left right : Float) : Bool :=
  (left - right).abs ≤ tolerance * larger (larger 1.0 left.abs) right.abs

/-- Compare two numbers up to the tolerance. -/
def compareClose (tolerance : Float) (left right : Value) : Except EvalError Bool :=
  match left.real?, right.real? with
  | some x, some y => .ok (close tolerance x y)
  | _, _ => unfit .approximatelyEqual left right

/-- Whether a value is an item of a list; it has to be the same, so an integer is no real number. -/
def isMember (item : Value) : Value → Except EvalError Bool
  | .list items => .ok (items.contains item)
  | other => .error (.typeMismatch .memberList .list other.type)

/-! What an operator makes of the values of its operands. -/

/-- The value of an operation on two values. -/
def applyBinary (tolerance : Float) (operation : Operation) (left right : Value) :
    Except EvalError Value :=
  match operation with
  | .add | .subtract | .multiply | .divide | .power => arithmetic operation left right
  | .equal | .notEqual | .greater | .less | .greaterOrEqual | .lessOrEqual =>
    (compareValues operation left right).map .boolean
  | .approximatelyEqual => (compareClose tolerance left right).map .boolean
  | .member => (isMember left right).map .boolean
  | _ => misplaced operation .notBinary

/-- The value of an operation on one value. -/
def applyUnary (operation : Operation) (operand : Value) : Except EvalError Value :=
  match operation, operand with
  | .negate, .integer n => .ok (.integer (-n))
  | .negate, .real x => .ok (.real (-x))
  | .negation, .boolean b => .ok (.boolean !b)
  | .negate, other | .negation, other => .error (.badOperand operation other.type)
  | _, _ => misplaced operation .notUnary

end Scriptlet.Operator

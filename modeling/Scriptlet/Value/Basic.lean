import Scriptlet.Expr.Basic
import Scriptlet.Value.Function

/-! Values, and how they are told apart, looked into and widened. -/

namespace Scriptlet

/-- A value. -/
inductive Value where
  /-- A whole number. -/
  | integer (value : Int64)
  /-- A real number. -/
  | real (value : Float)
  /-- A text. -/
  | string (value : String)
  /-- A truth value. -/
  | boolean (value : Bool)
  /-- A list of values. -/
  | list (items : List Value)
  /-- A function. -/
  | function (function : Function)
  deriving Inhabited

namespace Value

mutual

/-- Whether two values are the same: real numbers by their bits, and functions by what they are. -/
def decEq : (left right : Value) → Decidable (left = right)
  | integer value, integer value' =>
    if same : value = value' then .isTrue (by rw [same])
    else .isFalse fun equal => same (by injection equal)
  | real value, real value' =>
    if same : value = value' then .isTrue (by rw [same])
    else .isFalse fun equal => same (by injection equal)
  | string value, string value' =>
    if same : value = value' then .isTrue (by rw [same])
    else .isFalse fun equal => same (by injection equal)
  | boolean value, boolean value' =>
    if same : value = value' then .isTrue (by rw [same])
    else .isFalse fun equal => same (by injection equal)
  | list items, list items' =>
    match decEqAll items items' with
    | .isTrue same => .isTrue (by rw [same])
    | .isFalse differ => .isFalse fun equal => differ (by injection equal)
  | function f, function f' =>
    if same : f = f' then .isTrue (by rw [same])
    else .isFalse fun equal => same (by injection equal)
  | integer _, real _ | integer _, string _ | integer _, boolean _ | integer _, list _
  | integer _, function _ => .isFalse (by simp)
  | real _, integer _ | real _, string _ | real _, boolean _ | real _, list _
  | real _, function _ => .isFalse (by simp)
  | string _, integer _ | string _, real _ | string _, boolean _ | string _, list _
  | string _, function _ => .isFalse (by simp)
  | boolean _, integer _ | boolean _, real _ | boolean _, string _ | boolean _, list _
  | boolean _, function _ => .isFalse (by simp)
  | list _, integer _ | list _, real _ | list _, string _ | list _, boolean _
  | list _, function _ => .isFalse (by simp)
  | function _, integer _ | function _, real _ | function _, string _ | function _, boolean _
  | function _, list _ => .isFalse (by simp)

/-- Whether two lists of values are the same. -/
def decEqAll : (left right : List Value) → Decidable (left = right)
  | [], [] => .isTrue rfl
  | [], _ :: _ => .isFalse (by simp)
  | _ :: _, [] => .isFalse (by simp)
  | left :: lefts, right :: rights =>
    match decEq left right with
    | .isFalse differ => .isFalse fun equal => differ (by injection equal)
    | .isTrue same =>
      match decEqAll lefts rights with
      | .isFalse differ => .isFalse fun equal => differ (by injection equal)
      | .isTrue rest => .isTrue (by rw [same, rest])

end

instance : DecidableEq Value := decEq

/-- The list without items. -/
def emptyList : Value :=
  list []

/-- The value of a constant. -/
def ofLiteral : Literal → Value
  | .integer value => integer value
  | .real value => real value
  | .string value => string value
  | .boolean value => boolean value

/-- The type of a value. -/
def type : Value → ValueType
  | integer _ => .integer
  | real _ => .real
  | string _ => .string
  | boolean _ => .boolean
  | list _ => .list
  | function _ => .function

/-- The double nearest to an integer; a tie goes to the one with an even significand. -/
def widen (value : Int64) : Float :=
  Float.ofInt value.toInt

/-- The whole number that a value is. -/
def integer? : Value → Option Int64
  | integer value => some value
  | _ => none

/-- The real number that a value is, or that the integer widens to which it is. -/
def real? : Value → Option Float
  | integer value => some (widen value)
  | real value => some value
  | _ => none

/-- The text that a value is. -/
def string? : Value → Option String
  | string value => some value
  | _ => none

/-- The truth value that a value is. -/
def boolean? : Value → Option Bool
  | boolean value => some value
  | _ => none

/-- The items of the list that a value is. -/
def list? : Value → Option (List Value)
  | list items => some items
  | _ => none

/-- The function that a value is. -/
def function? : Value → Option Function
  | function f => some f
  | _ => none

/-- A value where a type is required: integers widen, and nothing else changes. -/
def converted (value : Value) (required : ValueType) : Value :=
  match value, required with
  | integer n, .real => real (widen n)
  | other, _ => other

/-- A value that conforms to a type has that type once it is converted to it. -/
theorem type_converted (value : Value) (required : ValueType)
    (conforms : value.type.conformsTo required = true) :
    (value.converted required).type = required := by
  -- The only conforming value of another type is an integer, and that one becomes real.
  cases value <;> cases required <;> simp_all [converted, type, ValueType.conformsTo]

end Value

end Scriptlet

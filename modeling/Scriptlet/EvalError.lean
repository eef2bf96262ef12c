import Scriptlet.Decimal.Digits
import Scriptlet.Expr.Shape
import Scriptlet.ValueType

/-! Why an evaluation fails. -/

namespace Scriptlet

/-- A place where a value of a certain type is required. -/
inductive Place where
  /-- Right of the operator for membership. -/
  | memberList
  /-- A value that the host hands over. -/
  | hostValue
  /-- The antecedent of an arm of a selection. -/
  | antecedent
  /-- The condition of a loop. -/
  | loopCondition
  /-- An argument of a function, counted from one. -/
  | argument (position : Nat) (function : String)
  /-- The result of a function. -/
  | result (function : String)
  deriving Repr, DecidableEq

/-- The place in words. -/
def Place.text : Place → String
  | memberList => "right operand of \x60in\x60"
  | hostValue => "host value"
  | antecedent => "selection antecedent"
  | loopCondition => "while condition"
  | argument position function => s!"argument {position} of {function}"
  | result function => s!"result of {function}"

/-- What is wrong with the arguments of a function. -/
inductive ArgumentFault where
  /-- The argument at a position, counted from one, is missing or of another type. -/
  | wrongType (position : Nat) (required : ValueType)
  /-- A list is longer than integers go. -/
  | listTooLong
  /-- A list has no item at a place. -/
  | outOfRange (index : Int64) (count : Nat)
  /-- There is no item to append. -/
  | itemMissing
  /-- No character has the code point. -/
  | notCharacter (code : Int64)
  /-- A text has no first character. -/
  | emptyText
  /-- There is no argument. -/
  | argumentMissing
  /-- A function is to be handed to the host. -/
  | functionForHost
  /-- The host says what is wrong. -/
  | hostSays (detail : String)
  deriving DecidableEq

/-- An integer in decimal digits. -/
def integerText (value : Int64) : String :=
  String.ofList (Decimal.signed value.toInt)

/-- The fault in words. -/
def ArgumentFault.message : ArgumentFault → String
  | wrongType position required => s!"argument {position} must be {required.name}"
  | listTooLong => "list too long"
  | outOfRange index count => s!"index {integerText index} out of range for a list of {count}"
  | itemMissing => "missing item"
  | notCharacter code => s!"{integerText code} is not a character"
  | emptyText => "empty string"
  | argumentMissing => "missing argument"
  | functionForHost => "functions cannot be passed to the host"
  | hostSays detail => detail

/-- A failure of an evaluation. -/
inductive EvalError where
  /-- An operator does not apply to a value of this type. -/
  | badOperand (operation : Operation) (found : ValueType)
  /-- An operator does not apply to values of these two types. -/
  | badOperands (operation : Operation) (left right : ValueType)
  /-- A value is not of the type that is required at its place. -/
  | typeMismatch (place : Place) (expected found : ValueType)
  /-- Values of one type do not become values of another. -/
  | noConversion (source target : ValueType)
  /-- Something other than a function is called. -/
  | notCallable (found : ValueType)
  /-- A function is called with arguments that it does not take. -/
  | badArgument (function : String) (fault : ArgumentFault)
  /-- A function is called with another number of arguments. -/
  | wrongArity (function : String) (expected found : Nat)
  /-- A name has no value. -/
  | unbound (name : Name)
  /-- No antecedent of a selection holds. -/
  | noMatch
  /-- A number is divided by zero. -/
  | divisionByZero
  /-- A sequence without expressions has no value. -/
  | emptySequence
  /-- The evaluation is asked to stop. -/
  | interrupted
  /-- More calls are under way than may be. -/
  | tooDeep (limit : Nat)
  /-- A node is out of shape. -/
  | badShape (error : ShapeError)
  /-- A number is to be written with more places than can be; the program itself breaks down. -/
  | unwritable (places : Nat)
  deriving DecidableEq

namespace EvalError

/-- The failure in words. -/
def message : EvalError → String
  | badOperand operation found =>
    "operator \x60" ++ operation.spelling ++ "\x60 cannot be applied to " ++ found.name
  | badOperands operation left right =>
    "operator \x60" ++ operation.spelling ++ "\x60 cannot be applied to " ++ left.name ++ " and " ++
      right.name
  | typeMismatch place expected found =>
    s!"{place.text}: expected {expected.name}, found {found.name}"
  | noConversion source target => s!"cannot convert {source.name} to {target.name}"
  | notCallable found => s!"{found.name} value is not a function"
  | badArgument function fault => s!"{function}: {fault.message}"
  | wrongArity function expected found =>
    s!"{function} expects {expected} argument(s), got {found}"
  | unbound name => "unbound symbol \x60" ++ name.text ++ "\x60"
  | noMatch => "no selection antecedent was true"
  | divisionByZero => "division by zero"
  | emptySequence => "empty sequence has no value"
  | interrupted => "evaluation interrupted"
  | tooDeep limit => s!"call depth limit of {limit} exceeded"
  | badShape error => error.message
  | unwritable _ => "Formatting argument out of range"

/-- The kind of failure that is reported; a breakdown is reported to nobody. -/
def kind : EvalError → String
  | badOperand .. | badOperands .. | typeMismatch .. | noConversion .. | notCallable ..
  | badArgument .. => "TypeError"
  | wrongArity .. => "ArityError"
  | unbound .. => "UnboundSymbolError"
  | noMatch => "NoMatchingSelectionError"
  | divisionByZero => "DivisionByZeroError"
  | emptySequence => "EmptySequenceError"
  | interrupted => "InterruptedError"
  | tooDeep .. => "RecursionLimitError"
  | badShape .. => "MalformedAstError"
  | unwritable .. => "Breakdown"

end EvalError

end Scriptlet

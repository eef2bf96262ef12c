import Scriptlet.Decimal.Binary
import Scriptlet.EvalError
import Scriptlet.Value.Basic

/-! Values as text, and what becomes of values at the border to texts and to the host. -/

namespace Scriptlet

namespace Value

/-- How many decimal places are shown unless something else is asked for. -/
def defaultPlaces : Nat :=
  6

mutual

/-- The characters that show a value, in front of others; texts stand between quotes. -/
def charsBefore (places : Nat) : Value → List Char → List Char
  | integer value, tail => Decimal.signed value.toInt ++ tail
  | real value, tail => (Decimal.placesText places value).toList ++ tail
  | string value, tail => '"' :: (value.toList ++ '"' :: tail)
  | boolean value, tail => (Literal.booleanText value).toList ++ tail
  | list items, tail => '[' :: itemCharsBefore places items (']' :: tail)
  | function f, tail => f.text.toList ++ tail

/-- The characters that show the items of a list with blanks between them, in front of others. -/
def itemCharsBefore (places : Nat) : List Value → List Char → List Char
  | [], tail => tail
  | [item], tail => charsBefore places item tail
  | item :: rest, tail => charsBefore places item (' ' :: itemCharsBefore places rest tail)

end

mutual

/-- Whether all real numbers in a value can be written with so many places. -/
def writable (places : Nat) : Value → Bool
  | real value => Decimal.writable places value
  | list items => allWritable places items
  | _ => true

/-- Whether all real numbers in some values can be written with so many places. -/
def allWritable (places : Nat) : List Value → Bool
  | [] => true
  | item :: rest => item.writable places && allWritable places rest

end

/-- A value as it is shown inside others, with so many decimal places. -/
def text (places : Nat) (value : Value) : String :=
  String.ofList (value.charsBefore places [])

/-- A value as it is shown to people: a text is shown bare. -/
def humanText (places : Nat) : Value → String
  | string value => value
  | other => other.text places

end Value

/-- A value as the host has it; there are no functions among these. -/
inductive HostValue where
  /-- A whole number. -/
  | integer (value : Int64)
  /-- A real number. -/
  | real (value : Float)
  /-- A text. -/
  | string (value : String)
  /-- A truth value. -/
  | boolean (value : Bool)
  /-- A list of values. -/
  | list (items : List Value)
  deriving DecidableEq, Inhabited

/-- The value that the host's value is for scripts. -/
def HostValue.toValue : HostValue → Value
  | integer value => .integer value
  | real value => .real value
  | string value => .string value
  | boolean value => .boolean value
  | list items => .list items

namespace Value

/-- Take a value of a type from the host; an integer is good for a real number. -/
def ofHost (type : ValueType) (value : HostValue) : Except EvalError Value :=
  let found := value.toValue
  if found.type.conformsTo type then .ok (found.converted type)
  else .error (.typeMismatch .hostValue type found.type)

/-- Hand a value to the host. -/
def toHost : Value → Except EvalError HostValue
  | integer value => .ok (.integer value)
  | real value => .ok (.real value)
  | string value => .ok (.string value)
  | boolean value => .ok (.boolean value)
  | list items => .ok (.list items)
  | function f => .error (.badArgument f.displayName .functionForHost)

/-- The text of a number or truth value, with so many decimal places if there can be so many. -/
def toText (places : Nat) (value : Value) : Except EvalError Value :=
  match value with
  | integer _ | boolean _ => .ok (string (value.text places))
  | real x =>
    if Decimal.writable places x then .ok (string (value.text places))
    else .error (.unwritable places)
  | string _ | list _ | function _ => .error (.noConversion value.type .string)

end Value

end Scriptlet

import Scriptlet.Value.Exchange

/-! The built-in library: what its functions compute, and the names that it binds. -/

namespace Scriptlet

namespace Builtin

/-- The argument at a position, counted from zero, if it is one of the required type. -/
def argument {α : Type} (builtin : Builtin) (required : ValueType) (read : Value → Option α)
    (arguments : List Value) (position : Nat) : Except EvalError α :=
  match arguments[position]?.bind read with
  | some found => .ok found
  | none => .error (.badArgument builtin.name (.wrongType (position + 1) required))

/-- The list at a position. -/
def listArgument (builtin : Builtin) : List Value → Nat → Except EvalError (List Value) :=
  builtin.argument .list Value.list?

/-- The integer at a position. -/
def integerArgument (builtin : Builtin) : List Value → Nat → Except EvalError Int64 :=
  builtin.argument .integer Value.integer?

/-- The real number at a position; an integer widens. -/
def realArgument (builtin : Builtin) : List Value → Nat → Except EvalError Float :=
  builtin.argument .real Value.real?

/-- The text at a position. -/
def stringArgument (builtin : Builtin) : List Value → Nat → Except EvalError String :=
  builtin.argument .string Value.string?

/-- A fault of the arguments of a function. -/
def refuse {α : Type} (builtin : Builtin) (fault : ArgumentFault) : Except EvalError α :=
  .error (.badArgument builtin.name fault)

/-- The number of items of a list. -/
def lengthOf (items : List Value) : Except EvalError Value :=
  if items.length ≤ 0x7FFFFFFFFFFFFFFF then .ok (.integer (Int64.ofNat items.length))
  else length.refuse .listTooLong

/-- The item at a place of a list; the list without items has the empty list everywhere. -/
def itemOf (items : List Value) (index : Int64) : Except EvalError Value :=
  if items.isEmpty then .ok .emptyList
  else
    match if index < 0 then none else items[index.toInt.toNat]? with
    | some found => .ok found
    | none => item.refuse (.outOfRange index items.length)

/-- The character of a code point; a negative number gives no character and no failure. -/
def characterOf (code : Int64) : Except EvalError Value :=
  if code < 0 then .ok (.string "")
  else
    let point := code.toInt.toNat
    if point.isValidChar then .ok (.string (String.singleton (Char.ofNat point)))
    else character.refuse (.notCharacter code)

/-- The code point of the first character of a text. -/
def codePointOf (text : String) : Except EvalError Value :=
  match text.toList with
  | c :: _ => .ok (.integer (Int64.ofNat c.toNat))
  | [] => codePoint.refuse .emptyText

/-- A value as text; a text stays as it is. -/
def textOf (places : Nat) : Value → Except EvalError Value
  | .string text => .ok (.string text)
  | other => other.toText places

/-- A function of one real number. -/
def onReal (builtin : Builtin) (compute : Float → Float) (arguments : List Value) :
    Except EvalError Value := do
  return .real (compute (← builtin.realArgument arguments 0))

/-- What a built-in function makes of its arguments; it checks them by itself. -/
def apply (places : Nat) (builtin : Builtin) (arguments : List Value) : Except EvalError Value :=
  match builtin with
  | length => do lengthOf (← length.listArgument arguments 0)
  | first => do return (← first.listArgument arguments 0).head?.getD .emptyList
  | rest => do return .list (← rest.listArgument arguments 0).tail
  | item => do
    let items ← item.listArgument arguments 0
    let index ← item.integerArgument arguments 1
    itemOf items index
  | concat => do
    let front ← concat.listArgument arguments 0
    let back ← concat.listArgument arguments 1
    return .list (front ++ back)
  | append => do
    let items ← append.listArgument arguments 0
    match arguments[1]? with
    | some added => return .list (items ++ [added])
    | none => append.refuse .itemMissing
  | character => do characterOf (← character.integerArgument arguments 0)
  | codePoint => do codePointOf (← codePoint.stringArgument arguments 0)
  | toText =>
    match arguments with
    | value :: _ => textOf places value
    | [] => toText.refuse .argumentMissing
  | toReal => do return .real (Value.widen (← toReal.integerArgument arguments 0))
  | squareRoot => squareRoot.onReal Float.sqrt arguments
  | sine => sine.onReal Float.sin arguments
  | cosine => cosine.onReal Float.cos arguments
  | tangent => tangent.onReal Float.tan arguments
  | logarithm => logarithm.onReal Float.log arguments
  | exponential => exponential.onReal Float.exp arguments

end Builtin

/-- The double nearest to the circle's ratio. -/
def circleRatio : Float :=
  Float.ofBits 0x400921FB54442D18

/-- The double nearest to the base of natural logarithms. -/
def naturalBase : Float :=
  Float.ofBits 0x4005BF0A8B145769

/-- What the library binds: two numbers, then all functions that are built in. -/
def library : List (Name × Value) :=
  (Name.ofText "PI", .real circleRatio) :: (Name.ofText "E", .real naturalBase) ::
    Builtin.all.map fun builtin => (Name.ofText builtin.name, .function (.builtin builtin))

end Scriptlet

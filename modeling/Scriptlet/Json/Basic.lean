import Scriptlet.Decimal.Digits

/-! JSON values, and their compact text. -/

namespace Scriptlet

/-- A JSON value; objects keep their members in order, repeated names included. -/
inductive Json where
  /-- The null value. -/
  | null
  /-- A truth value. -/
  | boolean (value : Bool)
  /-- A number, as it is written. -/
  | number (text : String)
  /-- A text. -/
  | string (text : String)
  /-- A list of values. -/
  | array (items : List Json)
  /-- A list of named values. -/
  | object (members : List (String × Json))
  deriving Repr, Inhabited

namespace Json

/-- A hexadecimal digit. -/
def hexDigit (digit : Nat) : Char :=
  if digit < 10 then Char.ofNat (48 + digit) else Char.ofNat (87 + digit)

/-- One character inside a quoted text: quotes, backslashes and control characters are escaped. -/
def escapeChar (c : Char) : List Char :=
  if c == '"' then ['\\', '"']
  else if c == '\\' then ['\\', '\\']
  else if c == '\x08' then ['\\', 'b']
  else if c == '\x0c' then ['\\', 'f']
  else if c == '\n' then ['\\', 'n']
  else if c == '\r' then ['\\', 'r']
  else if c == '\t' then ['\\', 't']
  else if c.toNat < 0x20 then
    ['\\', 'u', '0', '0', hexDigit (c.toNat / 16), hexDigit (c.toNat % 16)]
  else [c]

/-- A text between quotes. -/
def quote (text : String) : List Char :=
  '"' :: (text.toList.flatMap escapeChar ++ ['"'])

mutual

/-- The text of a value without any blanks, in front of others. -/
def charsBefore : Json → List Char → List Char
  | null, tail => "null".toList ++ tail
  | boolean true, tail => "true".toList ++ tail
  | boolean false, tail => "false".toList ++ tail
  | number text, tail => text.toList ++ tail
  | string text, tail => quote text ++ tail
  | array items, tail => '[' :: itemCharsBefore items (']' :: tail)
  | object members, tail => '{' :: memberCharsBefore members ('}' :: tail)

/-- The texts of the items of a list with commas between them, in front of others. -/
def itemCharsBefore : List Json → List Char → List Char
  | [], tail => tail
  | [item], tail => charsBefore item tail
  | item :: rest, tail => charsBefore item (',' :: itemCharsBefore rest tail)

/-- The texts of the members of an object with commas between them, in front of others. -/
def memberCharsBefore : List (String × Json) → List Char → List Char
  | [], tail => tail
  | [(name, value)], tail => quote name ++ ':' :: charsBefore value tail
  | (name, value) :: rest, tail =>
    quote name ++ ':' :: charsBefore value (',' :: memberCharsBefore rest tail)

end

/-- The text of a value, without any blanks. -/
def text (value : Json) : String :=
  String.ofList (value.charsBefore [])

/-- A whole number as a JSON value, for whoever answers in JSON how many of something there are. -/
def ofNat (n : Nat) : Json :=
  number (String.ofList (Decimal.whole n))

/-- A value that may be missing, as null where it is. -/
def ofOption {α : Type} (encode : α → Json) : Option α → Json
  | none => null
  | some value => encode value

/--
The values of all members of a name, in order.

A name may be given more than once. Whoever takes requests as JSON, as a test of this library does,
sees by it whether a member is missing and which of several comes first.
-/
def valuesOf (name : String) (members : List (String × Json)) : List Json :=
  (members.filter fun member => member.1 == name).map (·.2)

end Json

end Scriptlet

/-! Why a text is not JSON, and where reading it came to an end. -/

namespace Scriptlet.Json

/-- What is wrong with a text. -/
inductive Fault where
  /-- The text ends inside a list. -/
  | listUnclosed
  /-- The text ends inside an object. -/
  | objectUnclosed
  /-- The text ends inside a quoted text. -/
  | stringUnclosed
  /-- The text ends where a value is due. -/
  | valueMissing
  /-- A name is not followed by a colon. -/
  | colonExpected
  /-- An item is not followed by a comma or the end of the list. -/
  | itemEndExpected
  /-- A member is not followed by a comma or the end of the object. -/
  | memberEndExpected
  /-- A word starts like null, true or false and is none of them. -/
  | wordExpected
  /-- No value starts with the character. -/
  | valueExpected
  /-- A backslash is followed by no known escape. -/
  | badEscape
  /-- A number is not written as JSON writes numbers. -/
  | badNumber
  /-- A number is too large for a double. -/
  | numberTooLarge
  /-- A quoted text holds a bare control character. -/
  | bareControl
  /-- A member's name is not a quoted text. -/
  | nameExpected
  /-- Half of a surrogate pair stands alone. -/
  | loneSurrogate
  /-- The first half of a surrogate pair is not followed by an escape. -/
  | pairUnfinished
  /-- A comma is followed by the end of the list or object. -/
  | trailingComma
  /-- The value is followed by something else. -/
  | trailingText
  /-- Lists and objects nest too deeply. -/
  | tooDeep
  deriving Repr, DecidableEq

/-- The fault in words. -/
def Fault.message : Fault → String
  | .listUnclosed => "EOF while parsing a list"
  | .objectUnclosed => "EOF while parsing an object"
  | .stringUnclosed => "EOF while parsing a string"
  | .valueMissing => "EOF while parsing a value"
  | .colonExpected => "expected \x60:\x60"
  | .itemEndExpected => "expected \x60,\x60 or \x60]\x60"
  | .memberEndExpected => "expected \x60,\x60 or \x60\x7d\x60"
  | .wordExpected => "expected ident"
  | .valueExpected => "expected value"
  | .badEscape => "invalid escape"
  | .badNumber => "invalid number"
  | .numberTooLarge => "number out of range"
  | .bareControl => "control character (\\u0000-\\u001F) found while parsing a string"
  | .nameExpected => "key must be a string"
  | .loneSurrogate => "lone leading surrogate in hex escape"
  | .pairUnfinished => "unexpected end of hex escape"
  | .trailingComma => "trailing comma"
  | .trailingText => "trailing characters"
  | .tooDeep => "recursion limit exceeded"

/-- A fault, with the number of bytes behind the place where it shows. -/
structure Stop where
  /-- What is wrong. -/
  fault : Fault
  /-- How many bytes of the text are left. -/
  left : Nat
  deriving Repr, DecidableEq

/-- The number of bytes that characters take. -/
def byteCount (chars : List Char) : Nat :=
  chars.foldr (fun c count => c.utf8Size + count) 0

/-- The line of a place, given the characters in front of it; lines count from one. -/
def lineOf (front : List UInt8) : Nat :=
  front.count 10 + 1

/-- The number of bytes between the last line end and a place. -/
def columnOf (front : List UInt8) : Nat :=
  (front.reverse.takeWhile (· != 10)).length

/-- The fault and its place in a text, in words. -/
def Stop.message (stop : Stop) (text : String) : String :=
  let bytes := text.toUTF8.toList
  let front := bytes.take (bytes.length - stop.left)
  let line := String.ofList (Nat.toDigits 10 (lineOf front))
  let column := String.ofList (Nat.toDigits 10 (columnOf front))
  stop.fault.message ++ " at line " ++ line ++ " column " ++ column

end Scriptlet.Json

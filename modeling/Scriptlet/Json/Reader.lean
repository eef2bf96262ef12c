import Scriptlet.Json.Basic
import Scriptlet.Json.Fault

/-! Reading JSON text up to a limit of nesting, with the first fault of a text that is none. -/

namespace Scriptlet.Json

/-- A result that has been read, and the characters behind it. -/
abbrev Reading (α : Type) := α × List Char

/-- A reader takes characters from the front of a text, or says what stopped it. -/
abbrev Reader (α : Type) := List Char → Except Stop (Reading α)

/-- Stop with all of the given characters still to come. -/
def stopAt {α : Type} (fault : Fault) (rest : List Char) : Except Stop α :=
  .error ⟨fault, byteCount rest⟩

/-- Stop one byte further, behind the first byte of what is still to come. -/
def stopBehind {α : Type} (fault : Fault) (rest : List Char) : Except Stop α :=
  .error ⟨fault, byteCount rest - 1⟩

/-- Whether a character may stand between the parts of a text. -/
def isGap (c : Char) : Bool :=
  c == ' ' || c == '\n' || c == '\t' || c == '\r'

/-- The characters from the first that is no gap. -/
def skipGaps (chars : List Char) : List Char :=
  chars.dropWhile isGap

/-- Read the rest of a word. -/
def readWord : List Char → Reader Unit
  | [], rest => .ok ((), rest)
  | _ :: _, [] => stopAt .valueMissing []
  | expected :: word, c :: rest =>
    if c == expected then readWord word rest else stopBehind .wordExpected (c :: rest)

/-! Numbers. -/

/-- The significand of digits as far as it fits 64 bits, and the digits that are left. -/
def gather : Nat → List Char → Nat × List Char
  | significand, [] => (significand, [])
  | significand, c :: rest =>
    let next := 10 * significand + Decimal.digitValue c
    if 0xFFFFFFFFFFFFFFFF < next then (significand, c :: rest) else gather next rest

/-- Whether a significand times a power of ten is too large for a double. -/
def exceedsDouble (significand : Nat) (exponent : Int) : Bool :=
  significand != 0 && 0 < exponent &&
    (308 < exponent ||
      (significand.toUInt64.toFloat * Float.ofScientific 1 false exponent.toNat).isInf)

/-- Whether a number is too large for a double; digits past the 64th bit only count. -/
def tooLarge (whole fraction : List Char) (exponent : Int) : Bool :=
  let (significand, skipped) := gather 0 whole
  let (significand, ignored) := gather significand fraction
  let places : Int := fraction.length - ignored.length
  exceedsDouble significand (skipped.length - places + exponent)

/-- Read the digits before the point: a lone zero, or digits that start with another one. -/
def readWhole : Reader (List Char)
  | [] => stopAt .valueMissing []
  | '0' :: rest =>
    match rest with
    | c :: _ => if Decimal.isDigit c then stopBehind .badNumber rest else .ok (['0'], rest)
    | [] => .ok (['0'], [])
  | c :: rest =>
    if Decimal.isDigit c then
      .ok (c :: rest.takeWhile Decimal.isDigit, rest.dropWhile Decimal.isDigit)
    else stopBehind .badNumber (c :: rest)

/-- Read at least one digit. -/
def readDigits (chars : List Char) : Except Stop (Reading (List Char)) :=
  match chars.takeWhile Decimal.isDigit with
  | [] => if chars.isEmpty then stopAt .valueMissing [] else stopBehind .badNumber chars
  | digits => .ok (digits, chars.dropWhile Decimal.isDigit)

/-- Read the digits behind the point, if there is one. -/
def readFraction : Reader (Option (List Char))
  | '.' :: rest => do
    let (digits, rest) ← readDigits rest
    return (some digits, rest)
  | rest => .ok (none, rest)

/-- A power of ten, as it is written. -/
structure Power where
  /-- The mark in front of it. -/
  mark : Char
  /-- Its sign, or nothing. -/
  sign : List Char
  /-- Its digits. -/
  digits : List Char

/-- The value of a power of ten. -/
def Power.value (power : Power) : Int :=
  if power.sign == ['-'] then -(Decimal.value power.digits : Int) else Decimal.value power.digits

/-- Read the power of ten, if there is one. -/
def readPower : Reader (Option Power)
  | c :: rest =>
    if c == 'e' || c == 'E' then do
      let (sign, rest) := match rest with
        | '+' :: rest => (['+'], rest)
        | '-' :: rest => (['-'], rest)
        | rest => ([], rest)
      let (digits, rest) ← readDigits rest
      return (some ⟨c, sign, digits⟩, rest)
    else .ok (none, c :: rest)
  | [] => .ok (none, [])

/-- The digits behind the one that takes a power of ten past 32 bits; there may be no such digit. -/
def pastWord : Nat → List Char → List Char
  | _, [] => []
  | value, c :: rest =>
    let next := 10 * value + Decimal.digitValue c
    if 0x7FFFFFFF < next then rest else pastWord next rest

/-- The characters of a number behind its sign. -/
def numberChars (whole : List Char) (fraction : Option (List Char)) (power : Option Power) :
    List Char :=
  let behind := match power with
    | some power => power.mark :: (power.sign ++ power.digits)
    | none => []
  match fraction with
  | some digits => whole ++ '.' :: (digits ++ behind)
  | none => whole ++ behind

/-- Read a number whose sign has been read. -/
def readNumber (sign : List Char) (chars : List Char) : Except Stop (Reading Json) := do
  let (whole, rest) ← readWhole chars
  let (fraction, rest) ← readFraction rest
  let (power, rest) ← readPower rest
  if tooLarge whole (fraction.getD []) ((power.map Power.value).getD 0) then
    -- Reading ends where the power of ten passes 32 bits, if it does.
    let unread := (power.map fun power => pastWord 0 power.digits).getD []
    stopAt .numberTooLarge (unread ++ rest)
  else return (.number (String.ofList (sign ++ numberChars whole fraction power)), rest)

/-! Quoted texts. -/

/-- The value of a hexadecimal digit of either case. -/
def hexValue? (c : Char) : Option Nat :=
  if '0' ≤ c && c ≤ '9' then some (c.toNat - 48)
  else if 'a' ≤ c && c ≤ 'f' then some (c.toNat - 87)
  else if 'A' ≤ c && c ≤ 'F' then some (c.toNat - 55)
  else none

/-- Read four hexadecimal digits. -/
def readHex (chars : List Char) : Except Stop (Reading Nat) :=
  match chars with
  | a :: b :: c :: d :: rest =>
    match hexValue? a, hexValue? b, hexValue? c, hexValue? d with
    | some a, some b, some c, some d => .ok (4096 * a + 256 * b + 16 * c + d, rest)
    | _, _, _, _ => .error ⟨.badEscape, byteCount chars - 4⟩
  -- Fewer characters may still be four bytes, and then the escape is bad and not cut off.
  | _ =>
    if byteCount chars < 4 then stopAt .stringUnclosed []
    else .error ⟨.badEscape, byteCount chars - 4⟩

/-- Read the second half of a surrogate pair, whose first half is given. -/
def readPair (first : Nat) : Reader Char
  | [] => stopAt .stringUnclosed []
  | c :: rest =>
    if c != '\\' then stopBehind .pairUnfinished (c :: rest)
    else match rest with
      | [] => stopAt .stringUnclosed []
      | c :: rest =>
        if c != 'u' then stopBehind .pairUnfinished (c :: rest)
        else do
          let (second, rest) ← readHex rest
          if second < 0xDC00 || 0xDFFF < second then stopAt .loneSurrogate rest
          else return (Char.ofNat (0x10000 + 0x400 * (first - 0xD800) + (second - 0xDC00)), rest)

/-- Read what follows a backslash. -/
def readEscape : Reader Char
  | [] => stopAt .stringUnclosed []
  | 'b' :: rest => .ok ('\x08', rest)
  | 'f' :: rest => .ok ('\x0c', rest)
  | 'n' :: rest => .ok ('\n', rest)
  | 'r' :: rest => .ok ('\r', rest)
  | 't' :: rest => .ok ('\t', rest)
  | 'u' :: rest => do
    let (unit, rest) ← readHex rest
    if 0xDC00 ≤ unit && unit ≤ 0xDFFF then stopAt .loneSurrogate rest
    else if 0xD800 ≤ unit && unit ≤ 0xDBFF then readPair unit rest
    else return (Char.ofNat unit, rest)
  | c :: rest =>
    if c == '"' || c == '\\' || c == '/' then .ok (c, rest)
    else stopBehind .badEscape (c :: rest)

/-- Read a quoted text behind its first quote; every round takes a character. -/
def readQuoted : (rounds : Nat) → Reader (List Char)
  | 0, _ => stopAt .stringUnclosed []
  | _ + 1, [] => stopAt .stringUnclosed []
  | rounds + 1, c :: rest =>
    if c == '"' then .ok ([], rest)
    else if c == '\\' then do
      let (found, rest) ← readEscape rest
      let (text, rest) ← readQuoted rounds rest
      return (found :: text, rest)
    else if c.toNat < 0x20 then stopBehind .bareControl (c :: rest)
    else do
      let (text, rest) ← readQuoted rounds rest
      return (c :: text, rest)

/-- Read a quoted text behind its first quote. -/
def readString (rounds : Nat) (chars : List Char) : Except Stop (Reading String) := do
  let (text, rest) ← readQuoted rounds chars
  return (String.ofList text, rest)

/-! Lists and objects, over a reader for what stands inside them. -/

/-- Read what follows an item of a list; every round takes a character. -/
def readMoreItems (read : Reader Json) : (rounds : Nat) → Reader (List Json)
  | 0, _ => stopAt .listUnclosed []
  | rounds + 1, chars =>
    match skipGaps chars with
    | [] => stopBehind .listUnclosed []
    | ']' :: rest => .ok ([], rest)
    | ',' :: rest =>
      match skipGaps rest with
      | [] => stopBehind .valueMissing []
      | ']' :: rest => stopBehind .trailingComma (']' :: rest)
      | start => do
        let (item, rest) ← read start
        let (items, rest) ← readMoreItems read rounds rest
        return (item :: items, rest)
    | rest => stopBehind .itemEndExpected rest

/-- Read a list behind its bracket. -/
def readItems (rounds : Nat) (read : Reader Json) (chars : List Char) :
    Except Stop (Reading (List Json)) :=
  match skipGaps chars with
  | [] => stopBehind .listUnclosed []
  | ']' :: rest => .ok ([], rest)
  | start => do
    let (item, rest) ← read start
    let (items, rest) ← readMoreItems read rounds rest
    return (item :: items, rest)

/-- Read a member of an object behind the quote of its name. -/
def readMember (rounds : Nat) (read : Reader Json) (chars : List Char) :
    Except Stop (Reading (String × Json)) := do
  let (name, rest) ← readString rounds chars
  match skipGaps rest with
  | [] => stopBehind .objectUnclosed []
  | ':' :: rest =>
    let (value, rest) ← read rest
    return ((name, value), rest)
  | rest => stopBehind .colonExpected rest

/-- Read what follows a member of an object; every round takes a character. -/
def readMoreMembers (read : Reader Json) : (rounds : Nat) → Reader (List (String × Json))
  | 0, _ => stopAt .objectUnclosed []
  | rounds + 1, chars =>
    match skipGaps chars with
    | [] => stopBehind .objectUnclosed []
    | '}' :: rest => .ok ([], rest)
    | ',' :: rest =>
      match skipGaps rest with
      | [] => stopBehind .valueMissing []
      | '"' :: rest => do
        let (member, rest) ← readMember rounds read rest
        let (members, rest) ← readMoreMembers read rounds rest
        return (member :: members, rest)
      | '}' :: rest => stopBehind .trailingComma ('}' :: rest)
      | rest => stopBehind .nameExpected rest
    | rest => stopBehind .memberEndExpected rest

/-- Read an object behind its brace. -/
def readMembers (rounds : Nat) (read : Reader Json) (chars : List Char) :
    Except Stop (Reading (List (String × Json))) :=
  match skipGaps chars with
  | [] => stopBehind .objectUnclosed []
  | '}' :: rest => .ok ([], rest)
  | '"' :: rest => do
    let (member, rest) ← readMember rounds read rest
    let (members, rest) ← readMoreMembers read rounds rest
    return (member :: members, rest)
  | rest => stopBehind .nameExpected rest

/-- Read a value whose parts, if it may have any, are read by `nested`. -/
def readValueWith (rounds : Nat) (nested : Option (Reader Json)) (chars : List Char) :
    Except Stop (Reading Json) :=
  match skipGaps chars with
  | [] => stopBehind .valueMissing []
  | 'n' :: rest => do
    let (_, rest) ← readWord ['u', 'l', 'l'] rest
    return (.null, rest)
  | 't' :: rest => do
    let (_, rest) ← readWord ['r', 'u', 'e'] rest
    return (.boolean true, rest)
  | 'f' :: rest => do
    let (_, rest) ← readWord ['a', 'l', 's', 'e'] rest
    return (.boolean false, rest)
  | '"' :: rest => do
    let (text, rest) ← readString rounds rest
    return (.string text, rest)
  | '[' :: rest =>
    match nested with
    | none => stopBehind .tooDeep ('[' :: rest)
    | some read => do
      let (items, rest) ← readItems rounds read rest
      return (.array items, rest)
  | '{' :: rest =>
    match nested with
    | none => stopBehind .tooDeep ('{' :: rest)
    | some read => do
      let (members, rest) ← readMembers rounds read rest
      return (.object members, rest)
  | '-' :: rest => readNumber ['-'] rest
  | c :: rest =>
    if Decimal.isDigit c then readNumber [] (c :: rest)
    else stopBehind .valueExpected (c :: rest)

/-- Read a value that nests at most `depth` deep, each list and object within so many rounds. -/
def readNested (rounds : Nat) : (depth : Nat) → Reader Json
  | 0 => readValueWith rounds none
  | depth + 1 => readValueWith rounds (some (readNested rounds depth))

/-- Read a value whose lists and objects nest at most `depth` deep. -/
def readValue (depth : Nat) (chars : List Char) : Except Stop (Reading Json) :=
  -- No part of the value has more rounds than there are characters.
  readNested (chars.length + 1) depth chars

/-- Only gaps may follow the value of a text. -/
def readEnd (rest : List Char) : Except Stop Unit :=
  match skipGaps rest with
  | [] => .ok ()
  | rest => stopBehind .trailingText rest

/-- Read a text that is one value. -/
def parse (depth : Nat) (text : String) : Except Stop Json := do
  let (value, rest) ← readValue depth text.toList
  readEnd rest
  return value

end Scriptlet.Json

import Scriptlet.Decimal.Integer

/-! Decimal numerals with a fraction and a power of ten, and the double nearest to each. -/

namespace Scriptlet.Decimal

/-- What a numeral denotes, sign apart: `digits * 10 ^ exponent`. -/
structure Numeral where
  /-- The digits before and behind the point, read as one whole number. -/
  digits : Nat
  /-- The written power of ten, less the number of digits behind the point. -/
  exponent : Int
  deriving Repr, DecidableEq

/-- The power of ten behind the exponent mark: an optional sign and at least one digit. -/
def readExponent? (chars : List Char) : Option Int :=
  let (negative, digits) := match chars with
    | '-' :: rest => (true, rest)
    | '+' :: rest => (false, rest)
    | rest => (false, rest)
  if digits.isEmpty || !digits.all isDigit then none
  else some (if negative then -(value digits : Int) else value digits)

/-- Read an unsigned numeral: digits, a point among them or none, and a power of ten or none. -/
def Numeral.read? (chars : List Char) : Option Numeral := do
  let isMark : Char → Bool := (· == 'E')
  let isPoint : Char → Bool := (· == '.')
  let mantissa := chars.takeWhile fun c => !isMark c
  let before := mantissa.takeWhile fun c => !isPoint c
  let behind := (mantissa.dropWhile fun c => !isPoint c).drop 1
  guard (!(before ++ behind).isEmpty && (before ++ behind).all isDigit)
  let exponent ← match chars.dropWhile fun c => !isMark c with
    | [] => some 0
    | _ :: written => readExponent? written
  return ⟨value (before ++ behind), exponent - behind.length⟩

/-- The double nearest to a numeral. -/
def Numeral.toFloat (numeral : Numeral) : Float :=
  let size := numeral.exponent + (whole numeral.digits).length
  if numeral.digits == 0 then 0.0
  -- So far outside the range of doubles the power of ten need not be computed.
  else if 310 < size then Float.ofBits 0x7FF0000000000000
  else if size < -330 then 0.0
  else Float.ofScientific numeral.digits (numeral.exponent < 0) numeral.exponent.natAbs

/-- Read a numeral with an optional minus sign. -/
def readSigned? : List Char → Option Float
  | '-' :: rest => (Numeral.read? rest).map fun numeral => -numeral.toFloat
  | rest => (Numeral.read? rest).map Numeral.toFloat

/-- The exponent mark may be of either case. -/
def raiseMark (c : Char) : Char :=
  if c == 'e' then 'E' else c

/-- A literal with its separator as the point; a point that is not the separator is refused. -/
def normalize (separator : Char) : List Char → Except NumberFault (List Char)
  | [] => .ok []
  | c :: rest =>
    if c == separator then do return '.' :: (← normalize separator rest)
    else if c == '.' then .error .strayPoint
    else do return raiseMark c :: (← normalize separator rest)

/-- Read a real number; one plus sign in front is ignored. -/
def readReal (separator : Char) (chars : List Char) : Except NumberFault Float := do
  let unsigned := match chars with
    | '+' :: rest => rest
    | rest => rest
  match readSigned? (← normalize separator unsigned) with
  | some x => .ok x
  | none => .error .notDecimal

/-- Read a number with an optional sign of either kind, as command-line flags give it. -/
def readPlain? : List Char → Option Float
  | '+' :: rest => (Numeral.read? (rest.map raiseMark)).map Numeral.toFloat
  | rest => readSigned? (rest.map raiseMark)

end Scriptlet.Decimal

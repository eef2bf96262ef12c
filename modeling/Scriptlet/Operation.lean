import Scriptlet.Text

/-! The operations that a node of an expression can stand for. -/

namespace Scriptlet

/-- How many children a node of an operation has. -/
inductive Arity where
  /-- Exactly so many. -/
  | fixed (count : Nat)
  /-- Any number, none included. -/
  | variadic
  deriving Repr, DecidableEq

/-- Whether a node may have so many children. -/
def Arity.accepts : Arity → Nat → Bool
  | fixed expected, count => expected == count
  | variadic, _ => true

/-- What a node does with its children. -/
inductive Operation where
  /-- The sum of two numbers, or two texts in a row. -/
  | add
  /-- The difference of two numbers. -/
  | subtract
  /-- The number of opposite sign. -/
  | negate
  /-- The product of two numbers. -/
  | multiply
  /-- The quotient of two numbers. -/
  | divide
  /-- A number to the power of another. -/
  | power
  /-- Whether both hold; the second is looked at only if the first holds. -/
  | both
  /-- Whether one holds; the second is looked at only if the first does not hold. -/
  | either
  /-- Whether something does not hold. -/
  | negation
  /-- Whether two values are equal. -/
  | equal
  /-- Whether two values differ. -/
  | notEqual
  /-- Whether the first value is the larger one. -/
  | greater
  /-- Whether the first value is the smaller one. -/
  | less
  /-- Whether the first value is not the smaller one. -/
  | greaterOrEqual
  /-- Whether the first value is not the larger one. -/
  | lessOrEqual
  /-- Whether two numbers are equal up to the tolerance. -/
  | approximatelyEqual
  /-- Whether a value is an item of a list. -/
  | member
  /-- A list of values. -/
  | list
  /-- An antecedent and its consequent, or a parameter and its type. -/
  | pair
  /-- Expressions one after the other; the last one gives the value. -/
  | sequence
  /-- A name bound to a value. -/
  | bind
  /-- A name; only a leaf stands for one. -/
  | symbol
  /-- A function's definition. -/
  | define
  /-- A function's call. -/
  | call
  /-- The consequent of the first antecedent that holds. -/
  | select
  /-- A body repeated while a condition holds. -/
  | loop
  deriving Repr, DecidableEq, Inhabited

namespace Operation

/-- All operations. -/
def all : List Operation :=
  [add, subtract, negate, multiply, divide, power, both, either, negation, equal, notEqual, greater,
   less, greaterOrEqual, lessOrEqual, approximatelyEqual, member, list, pair, sequence, bind,
   symbol, define, call, select, loop]

/-- How many children a node of the operation has. -/
def arity : Operation → Arity
  | negate | negation => .fixed 1
  | symbol => .fixed 0
  | list | sequence | define | call | select => .variadic
  | _ => .fixed 2

/-- Whether the operation is more than a function of the values of all its children. -/
def isSpecial : Operation → Bool
  | both | either | list | pair | sequence | bind | symbol | define | call | select | loop => true
  | _ => false

/-- The name by which expressions show the operation. -/
def mnemonic : Operation → String
  | add => "ADD"
  | subtract => "SUB"
  | negate => "NEG"
  | multiply => "MUL"
  | divide => "DIV"
  | power => "POW"
  | both => "AND"
  | either => "OR"
  | negation => "NOT"
  | equal => "EQUAL"
  | notEqual => "NOT_EQUAL"
  | greater => "GREATER_THAN"
  | less => "LESS_THAN"
  | greaterOrEqual => "GREATER_THAN_OR_EQUAL"
  | lessOrEqual => "LESS_THAN_OR_EQUAL"
  | approximatelyEqual => "APPROXIMATELY_EQUAL"
  | member => "IN"
  | list => "LIST"
  | pair => "PAIR"
  | sequence => "SEQUENCE"
  | bind => "BIND"
  | symbol => "SYMBOL"
  | define => "FUNDEF"
  | call => "FUNCALL"
  | select => "SELECT"
  | loop => "WHILE"

/-- The spelling of the operation in scripts, as messages give it. -/
def spelling : Operation → String
  | add => "+"
  | subtract | negate => "-"
  | multiply => "*"
  | divide => "/"
  | power => "^"
  | both => "and"
  | either => "or"
  | negation => "not"
  | equal => "="
  | notEqual => "<>"
  | greater => ">"
  | less => "<"
  | greaterOrEqual => ">="
  | lessOrEqual => "<="
  | approximatelyEqual => "=~"
  | member => "in"
  | list => "list"
  | pair => "pair"
  | sequence => "sequence"
  | bind => "<-"
  | symbol => "symbol"
  | define => "function"
  | call => "call"
  | select => "select"
  | loop => "while"

/-- The operation that a mnemonic names. -/
def ofMnemonic? (text : String) : Option Operation :=
  all.find? fun operation => operation.mnemonic == text

/-- The operators between two operands that are written with signs. -/
def signs : List Operation :=
  [add, subtract, multiply, divide, power, equal, notEqual, greater, less, greaterOrEqual,
   lessOrEqual, approximatelyEqual]

/-- The operators between two operands that are written with letters. -/
def words : List Operation :=
  [both, either, member]

/-- The operation of an operator between two operands; capital letters do not matter in words. -/
def ofOperator? (text : String) : Option Operation :=
  match signs.find? fun operation => operation.spelling == text with
  | some found => some found
  | none => words.find? fun operation => Text.sameWord operation.spelling text

/-- Every operation is in the list of all operations. -/
theorem mem_all (operation : Operation) : operation ∈ all := by
  cases operation <;> decide

/-- A mnemonic names its operation. -/
theorem ofMnemonic?_mnemonic (operation : Operation) :
    ofMnemonic? operation.mnemonic = some operation := by
  cases operation <;> decide

end Operation

end Scriptlet

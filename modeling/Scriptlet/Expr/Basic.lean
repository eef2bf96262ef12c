import Scriptlet.Decimal.Shortest
import Scriptlet.Operation
import Scriptlet.Text
import Scriptlet.ValueType

/-! Expressions: what a script says, once it is built. -/

namespace Scriptlet

/-! Names of symbols, which do not tell small letters from capitals. -/

/-- A symbol's name in its canonical spelling. -/
structure Name where
  /-- The canonical spelling. -/
  text : String
  deriving Repr, DecidableEq, Inhabited

namespace Name

/-- The canonical spelling of a text: in capitals, if any of its characters is a small letter. -/
def canonical (text : String) : String :=
  if text.toList.any Text.isLowercase then Text.uppercase text else text

/-- The name that a text spells. -/
def ofText (text : String) : Name :=
  ⟨canonical text⟩

/-- Names in the order of the code points of their spellings. -/
def sort (names : List Name) : List Name :=
  names.mergeSort fun left right => decide (left.text ≤ right.text)

/-- A name spelled without small letters is spelled canonically. -/
theorem canonical_of_all (text : String) (capital : text.toList.any Text.isLowercase = false) :
    canonical text = text := by
  simp [canonical, capital]

end Name

/-! The constants that stand in a script. -/

/-- A constant; lists and functions only come about when a script runs. -/
inductive Literal where
  /-- A whole number. -/
  | integer (value : Int64)
  /-- A real number; two of them are the same constant when their bits are. -/
  | real (value : Float)
  /-- A text. -/
  | string (value : String)
  /-- A truth value. -/
  | boolean (value : Bool)
  deriving DecidableEq

namespace Literal

/-- The type of a constant. -/
def type : Literal → ValueType
  | integer _ => .integer
  | real _ => .real
  | string _ => .string
  | boolean _ => .boolean

/-- The word for a truth value. -/
def booleanText (value : Bool) : String :=
  if value then "True" else "False"

/-- A constant as it is shown; texts stand between quotes and nothing in them is escaped. -/
def text : Literal → String
  | integer value => String.ofList (Decimal.signed value.toInt)
  | real value => Decimal.shortestText value
  | string value => "\"" ++ value ++ "\""
  | boolean value => booleanText value

/-- The token of a constant that was not read from a script. -/
def token : Literal → String
  | integer value => String.ofList (Decimal.signed value.toInt)
  | real value => Decimal.shortestText value
  | string value => value
  | boolean value => if value then "TRUE" else "FALSE"

end Literal

/-! Expressions, and what is told of them by looking at them. -/

/-- An expression. -/
inductive Expr where
  /-- A constant, with the token it was read from. -/
  | literal (token : String) (value : Literal)
  /-- A name. -/
  | symbol (name : Name)
  /-- An operation on other expressions; definitions and calls may carry a function's name. -/
  | node (operation : Operation) (name : Option Name) (children : List Expr)
  deriving Inhabited

namespace Expr

mutual

/-- Whether two expressions are the same, tokens included. -/
def decEq : (left right : Expr) → Decidable (left = right)
  | literal token value, literal token' value' =>
    if same : token = token' ∧ value = value' then .isTrue (by rw [same.1, same.2])
    else .isFalse fun equal => same (by injection equal with h1 h2; exact ⟨h1, h2⟩)
  | symbol name, symbol name' =>
    if same : name = name' then .isTrue (by rw [same])
    else .isFalse fun equal => same (by injection equal)
  | node operation name children, node operation' name' children' =>
    if same : operation = operation' ∧ name = name' then
      match decEqAll children children' with
      | .isTrue equal => .isTrue (by rw [same.1, same.2, equal])
      | .isFalse differ => .isFalse fun equal => differ (by injection equal)
    else .isFalse fun equal => same (by injection equal with h1 h2; exact ⟨h1, h2⟩)
  | literal .., symbol .. => .isFalse (by simp)
  | literal .., node .. => .isFalse (by simp)
  | symbol .., literal .. => .isFalse (by simp)
  | symbol .., node .. => .isFalse (by simp)
  | node .., literal .. => .isFalse (by simp)
  | node .., symbol .. => .isFalse (by simp)

/-- Whether two lists of expressions are the same. -/
def decEqAll : (left right : List Expr) → Decidable (left = right)
  | [], [] => .isTrue rfl
  | [], _ :: _ => .isFalse (by simp)
  | _ :: _, [] => .isFalse (by simp)
  | left :: lefts, right :: rights =>
    match decEq left right with
    | .isFalse differ => .isFalse fun equal => differ (by injection equal)
    | .isTrue same =>
      match decEqAll lefts rights with
      | .isFalse differ => .isFalse fun equal => differ (by injection equal)
      | .isTrue rest => .isTrue (by rw [same, rest])

end

instance : DecidableEq Expr := decEq

/-- A constant with the token it has when no script spells it. -/
def constant (value : Literal) : Expr :=
  literal value.token value

/-- A node without a function's name. -/
def plain (operation : Operation) (children : List Expr) : Expr :=
  node operation none children

/-- The operation of an expression; a leaf that is a name counts as one, a constant has none. -/
def operation? : Expr → Option Operation
  | literal .. => none
  | symbol _ => some .symbol
  | node operation .. => some operation

/-- The name that an expression consists of. -/
def symbol? : Expr → Option Name
  | symbol name => some name
  | _ => none

/-- The children of a node; a leaf has none. -/
def children : Expr → List Expr
  | node _ _ children => children
  | _ => []

/-- Whether a node calls a function by its name. -/
def callsByName (operation : Operation) (name : Option Name) : Bool :=
  operation == .call && name.isSome

mutual

/-- Whether an expression is free of names and of calls by name, which hang on the surroundings. -/
def isDeterministic : Expr → Bool
  | literal .. => true
  | symbol _ => false
  | node operation name children => !callsByName operation name && allDeterministic children

/-- Whether all expressions are free of names and of calls by name. -/
def allDeterministic : List Expr → Bool
  | [] => true
  | expr :: rest => expr.isDeterministic && allDeterministic rest

end

mutual

/-- The characters that show an expression, in front of others. -/
def charsBefore : Expr → List Char → List Char
  | literal _ value, tail => value.text.toList ++ tail
  | symbol name, tail => name.text.toList ++ tail
  | node operation none children, tail =>
    '(' :: (operation.mnemonic.toList ++ childCharsBefore children (')' :: tail))
  | node operation (some name) children, tail =>
    '(' :: (operation.mnemonic.toList ++
      ' ' :: (name.text.toList ++ childCharsBefore children (')' :: tail)))

/-- The characters that show a node's children, each behind a blank, in front of others. -/
def childCharsBefore : List Expr → List Char → List Char
  | [], tail => tail
  | child :: rest, tail => ' ' :: child.charsBefore (childCharsBefore rest tail)

end

/-- An expression as it is shown: operation, name and children between parentheses. -/
def text (expr : Expr) : String :=
  String.ofList (expr.charsBefore [])

/-- All of a list is deterministic exactly when each of its items is. -/
theorem allDeterministic_iff (exprs : List Expr) :
    allDeterministic exprs = true ↔ ∀ expr ∈ exprs, expr.isDeterministic = true := by
  induction exprs with
  | nil => simp [allDeterministic]
  | cons expr rest ih => simp [allDeterministic, ih]

end Expr

/-- What a leaf or a node's name says, the arrangement of the expression aside. -/
inductive Lexeme where
  /-- A name. -/
  | name (name : Name)
  /-- A constant and its token. -/
  | constant (token : String) (value : Literal)
  deriving DecidableEq

namespace Expr

mutual

/-- What an expression says from left to right, in front of what others say. -/
def lexemesBefore : Expr → List Lexeme → List Lexeme
  | literal token value, tail => .constant token value :: tail
  | symbol name, tail => .name name :: tail
  | node _ none children, tail => allLexemesBefore children tail
  | node _ (some name) children, tail => .name name :: allLexemesBefore children tail

/-- What expressions say from left to right, in front of what others say. -/
def allLexemesBefore : List Expr → List Lexeme → List Lexeme
  | [], tail => tail
  | expr :: rest, tail => expr.lexemesBefore (allLexemesBefore rest tail)

end

/-- What an expression says from left to right: a node's name, then its children. -/
def lexemes (expr : Expr) : List Lexeme :=
  expr.lexemesBefore []

/-- The tokens of the constants of an expression, from left to right. -/
def tokens (expr : Expr) : List String :=
  expr.lexemes.filterMap fun
    | .constant token _ => some token
    | .name _ => none

end Expr

end Scriptlet

import Scriptlet.Expr.Basic
import Scriptlet.ValueType

/-! Functions as values: those of scripts, those that are built in and those of the host. -/

namespace Scriptlet

/-- A function that a script has defined. -/
structure Closure where
  /-- Tells the function from all others; equal definitions make different functions. -/
  id : Nat
  /-- The name under which it was defined, if it has one. -/
  name : Option Name
  /-- The parameters. -/
  params : List (Name × ValueType)
  /-- The declared type of its results. -/
  returnType : Option ValueType
  /-- What a call evaluates. -/
  body : Expr
  /-- The frame in which it was defined. -/
  frame : Nat
  deriving DecidableEq, Inhabited

/-- A function that is built in. -/
inductive Builtin where
  /-- The number of items of a list. -/
  | length
  /-- The first item of a list. -/
  | first
  /-- A list without its first item. -/
  | rest
  /-- The item at a place of a list, counted from zero. -/
  | item
  /-- Two lists in a row. -/
  | concat
  /-- A list with a further item. -/
  | append
  /-- The character of a code point. -/
  | character
  /-- The code point of the first character of a text. -/
  | codePoint
  /-- A value as text. -/
  | toText
  /-- An integer as a real number. -/
  | toReal
  /-- The square root. -/
  | squareRoot
  /-- The sine. -/
  | sine
  /-- The cosine. -/
  | cosine
  /-- The tangent. -/
  | tangent
  /-- The natural logarithm. -/
  | logarithm
  /-- The exponential function. -/
  | exponential
  deriving Repr, DecidableEq, Inhabited

namespace Builtin

/-- All functions that are built in, in the order in which they are bound. -/
def all : List Builtin :=
  [length, first, rest, item, concat, append, character, codePoint, toText, toReal, squareRoot,
   sine, cosine, tangent, logarithm, exponential]

/-- The name of a built-in function. -/
def name : Builtin → String
  | length => "LENGTH"
  | first => "HEAD"
  | rest => "TAIL"
  | item => "NTH"
  | concat => "CONCAT"
  | append => "APPEND"
  | character => "CHR"
  | codePoint => "ORD"
  | toText => "TOSTRING"
  | toReal => "TOREAL"
  | squareRoot => "SQRT"
  | sine => "SIN"
  | cosine => "COS"
  | tangent => "TAN"
  | logarithm => "LOG"
  | exponential => "EXP"

/-- The types of the parameters; any value is good where there is none. -/
def params : Builtin → List (Option ValueType)
  | length | first | rest => [some .list]
  | item => [some .list, some .integer]
  | concat => [some .list, some .list]
  | append => [some .list, none]
  | character | toReal => [some .integer]
  | codePoint => [some .string]
  | toText => [none]
  | squareRoot | sine | cosine | tangent | logarithm | exponential => [some .real]

/-- The type of the results, if they all have one. -/
def returnType : Builtin → Option ValueType
  | first | item => none
  | length | codePoint => some .integer
  | rest | concat | append => some .list
  | character | toText => some .string
  | toReal | squareRoot | sine | cosine | tangent | logarithm | exponential => some .real

/-- Every built-in function is in the list of all of them. -/
theorem mem_all (builtin : Builtin) : builtin ∈ all := by
  cases builtin <;> decide

end Builtin

/-- A function of the host, as scripts know it; what it does is up to the host. -/
structure HostFunction where
  /-- Tells the function from all others of the host. -/
  id : Nat
  /-- The name of the function. -/
  name : Name
  /-- The types of the parameters; any value is good where there is none. -/
  params : List (Option ValueType)
  /-- The declared type of the results. -/
  returnType : Option ValueType
  deriving Repr, DecidableEq, Inhabited

/-- A function. -/
inductive Function where
  /-- A function that a script has defined. -/
  | closure (closure : Closure)
  /-- A function that is built in. -/
  | builtin (builtin : Builtin)
  /-- A function of the host. -/
  | host (host : HostFunction)
  deriving DecidableEq, Inhabited

namespace Function

/-- The name of a function, if it has one. -/
def name? : Function → Option Name
  | closure defined => defined.name
  | builtin known => some (Name.ofText known.name)
  | host offered => some offered.name

/-- The name of a function in messages. -/
def displayName (function : Function) : String :=
  match function.name? with
  | some name => name.text
  | none => "lambda"

/-- The types of the parameters; any value is good where there is none. -/
def params : Function → List (Option ValueType)
  | closure defined => defined.params.map fun param => some param.2
  | builtin known => known.params
  | host offered => offered.params

/-- The number of parameters. -/
def arity (function : Function) : Nat :=
  function.params.length

/-- The declared type of the results. -/
def returnType : Function → Option ValueType
  | closure defined => defined.returnType
  | builtin known => known.returnType
  | host offered => offered.returnType

/-- The type of a parameter as it is shown. -/
def paramText : Option ValueType → String
  | some type => type.name
  | none => "ANY"

/-- The parameters as they are shown; those of a script have names. -/
def paramTexts : Function → List String
  | closure defined => defined.params.map fun (name, type) => name.text ++ ":" ++ type.name
  | builtin known => known.params.map paramText
  | host offered => offered.params.map paramText

/-- A function as it is shown: its name, its parameters and the type of its results. -/
def text (function : Function) : String :=
  let result := match function.returnType with
    | some type => ":" ++ type.name
    | none => ""
  function.displayName ++ "(" ++ ", ".intercalate function.paramTexts ++ ")" ++ result

end Function

end Scriptlet

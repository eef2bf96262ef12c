import Scriptlet.Text

/-! The types of values, and the names they go by. -/

namespace Scriptlet

/-- The type of a value. -/
inductive ValueType where
  /-- Whole numbers of 64 bits. -/
  | integer
  /-- Doubles. -/
  | real
  /-- Texts. -/
  | string
  /-- Truth values. -/
  | boolean
  /-- Lists of values of any type. -/
  | list
  /-- Functions. -/
  | function
  deriving Repr, DecidableEq, Inhabited

namespace ValueType

/-- All types, in their fixed order. -/
def all : List ValueType :=
  [integer, real, string, boolean, list, function]

/-- The canonical name of a type. -/
def name : ValueType → String
  | integer => "INTEGER"
  | real => "REAL"
  | string => "STRING"
  | boolean => "BOOLEAN"
  | list => "LIST"
  | function => "FUNCTION"

/-- The mathematical sign of a type, for those that have one. -/
def ofSign? (text : String) : Option ValueType :=
  if text == "ℤ" then some integer
  else if text == "ℝ" then some real
  else if text == "𝔹" then some boolean
  else if text == "λ" then some function
  else none

/-- The type that a text names, blanks around it and the case of ASCII letters aside. -/
def ofName? (text : String) : Option ValueType :=
  let word := Text.trim text
  match ofSign? word with
  | some found => some found
  | none => all.find? fun type => Text.sameWord type.name word

/-- Whether values of a type hold other values. -/
def isComposite (type : ValueType) : Bool :=
  type == list || type == function

/-- Whether a value of one type may stand where another is required; only integers widen. -/
def conformsTo (type required : ValueType) : Bool :=
  type == required || (type == integer && required == real)

/-- Every type is in the list of all types. -/
theorem mem_all (type : ValueType) : type ∈ all := by
  cases type <;> decide

/-- Conforming is being the same type or being an integer where a real is required. -/
theorem conformsTo_iff (type required : ValueType) :
    type.conformsTo required = true ↔ type = required ∨ (type = integer ∧ required = real) := by
  simp [conformsTo]

end ValueType

end Scriptlet

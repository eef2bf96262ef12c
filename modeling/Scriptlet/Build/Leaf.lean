import Scriptlet.Build.Fault
import Scriptlet.Decimal.Numeral
import Scriptlet.Tree.Basic

/-! Leaves: what a single token means under each of the rules for leaves. -/

namespace Scriptlet

/-- Read a whole number; blanks around it are allowed. -/
def readInteger (text : String) : Except Decimal.NumberFault Int64 :=
  Decimal.readInt64 (Text.trimChars text.toList)

/-- Read a real number with the given decimal separator; blanks around it are allowed. -/
def readReal (separator : Char) (text : String) : Except Decimal.NumberFault Float :=
  Decimal.readReal separator (Text.trimChars text.toList)

/-- The truth value that a word in capitals stands for. -/
def truthOf? (word : String) : Option Bool :=
  if word == "TRUE" || word == "#T" then some true
  else if word == "FALSE" || word == "#F" then some false
  else none

/-- A text without the quotes around it, if there is one at either end. -/
def unquoted (text : String) : String :=
  match text.toList with
  | '"' :: rest =>
    -- A lone quote is no pair of quotes.
    if rest.getLast? == some '"' then String.ofList rest.dropLast else text
  | _ => text

namespace Build

/-- A whole number; a bad one is shown with the blanks around it. -/
def integerLeaf (text : String) : Except BuildError Expr :=
  match readInteger text with
  | .ok value => .ok (.literal text (.integer value))
  | .error fault => .error (.badNumber text fault)

/-- A real number; a bad one is shown with the blanks around it. -/
def realLeaf (separator : Char) (text : String) : Except BuildError Expr :=
  match readReal separator text with
  | .ok value => .ok (.literal text (.real value))
  | .error fault => .error (.badNumber text fault)

/-- A truth value, kept in capitals. -/
def booleanLeaf (text : String) : Except BuildError Expr :=
  let token := Text.uppercase (Text.trim text)
  match truthOf? token with
  | some value => .ok (.literal token (.boolean value))
  | none => .error (.malformed .boolean (.notBoolean text))

/-- A text, kept without its quotes. -/
def stringLeaf (text : String) : Expr :=
  .literal (unquoted text) (.string (unquoted text))

/-- A name. -/
def symbolLeaf (text : String) : Except BuildError Expr :=
  let word := Text.trim text
  if word.isEmpty then .error (.malformed .symbol .blankSymbol)
  else .ok (.symbol (Name.ofText word))

/-- A type, kept as its canonical name. -/
def typeLeaf (text : String) : Except BuildError Expr :=
  match ValueType.ofName? text with
  | some type => .ok (.symbol (Name.ofText type.name))
  | none => .error (.unknownType text)

/-- What a token means under a rule for leaves. -/
def leaf (separator : Char) (rule : Rule) (text : String) : Except BuildError Expr :=
  match rule with
  | .integer => integerLeaf text
  | .real => realLeaf separator text
  | .boolean => booleanLeaf text
  | .string => .ok (stringLeaf text)
  | .symbol => symbolLeaf text
  | .type => typeLeaf text
  | _ => .error (.malformed rule .notLexical)

/-- The text of the only token of a leaf. -/
def onlyToken (rule : Rule) : List Tree → Except BuildError String
  | [.terminal text] => .ok text
  | _ => .error (.malformed rule .notOneToken)

/-- What a leaf means. -/
def readLeaf (separator : Char) (rule : Rule) (children : List Tree) : Except BuildError Expr := do
  leaf separator rule (← onlyToken rule children)

end Build

end Scriptlet

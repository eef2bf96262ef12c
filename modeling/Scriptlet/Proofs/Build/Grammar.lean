import Scriptlet.Proofs.Build.Token

/-!
The grammar that syntax trees follow.

What a node of a rule may hold is a form, and the trees of that form are derived from it. Levels that
add nothing may be left out: any rule for expressions may stand where an operand is due.
-/

namespace Scriptlet

open Text Build

/-- What may stand in a row below a node. -/
inductive Form where
  /-- One token, with a text of this kind. -/
  | token (valid : String → Prop)
  /-- One node, of one of these rules. -/
  | node (rules : List Rule)
  /-- Nothing at all. -/
  | nothing
  /-- One form and another one behind it. -/
  | both (first second : Form)
  /-- One form or another. -/
  | either (first second : Form)
  /-- Any number of times the same form, none included. -/
  | many (part : Form)

namespace Form

/-- One form after the other. -/
def row : List Form → Form
  | [] => nothing
  | form :: rest => both form (row rest)

/-- A form that need not be there. -/
def maybe (part : Form) : Form :=
  either nothing part

/-- A token that spells a word. -/
def word (spelling : String) : Form :=
  token (Spelled spelling)

/-- The rules for expressions: any of them may stand where an operand is due. -/
def operandRules : List Rule :=
  [.expression, .selection, .disjunction, .conjunction, .denial, .relation, .sum, .product, .signed,
   .power, .factor, .integer, .real, .boolean, .string, .list, .symbol, .anonymousDefinition, .call]

/-- An expression, with any of the levels above it left out. -/
def operand : Form :=
  node operandRules

/-- Parameters between parentheses, perhaps a return type, and a body. -/
def signature : Form :=
  row [word "(", many (node [.parameter]), word ")", maybe (row [word ":", node [.type]]),
    node [.block]]

/-- An antecedent and what is evaluated where it holds. -/
def arm : Form :=
  row [operand, word "->", node (.consequent :: .block :: operandRules)]

/-- An operator of a rule and the operand behind it. -/
def link (rule : Rule) : Form :=
  row [token (IsOperator rule), operand]

/-- Operands with operators of a rule between them. -/
def joined (rule : Rule) : Form :=
  row [operand, many (link rule)]

/-- The one token of a leaf of a rule. -/
def lexeme (separator : Char) (rule : Rule) : Form :=
  token (Readable separator rule)

/-- What a node of a rule may hold. -/
def ofRule (separator : Char) : Rule → Form
  | .sequence => many (node (.binding :: .loop :: .namedDefinition :: operandRules))
  | .binding => row [node [.symbol], word "<-", operand]
  | .loop => row [word "while", operand, node [.block]]
  | .namedDefinition => row [node [.symbol], signature]
  | .anonymousDefinition => row [word "function", signature]
  | .parameter => row [node [.symbol], word ":", node [.type]]
  | .expression => operand
  | .selection => row [word "select", arm, many arm]
  | .consequent => node (.block :: operandRules)
  | .denial => row [maybe (word "not"), operand]
  | .signed => row [maybe (word "-"), operand]
  | .factor => either (row [word "(", operand, word ")"]) operand
  | .call => row [node [.callee, .symbol, .anonymousDefinition], word "(", many operand, word ")"]
  | .callee => node [.symbol, .anonymousDefinition]
  | .block => row [word "\x7b", node [.sequence], word "\x7d"]
  | .list => row [word "[", many operand, word "]"]
  | .disjunction => joined .disjunction
  | .conjunction => joined .conjunction
  | .relation => joined .relation
  | .sum => joined .sum
  | .product => joined .product
  | .power => joined .power
  | .integer => lexeme separator .integer
  | .real => lexeme separator .real
  | .boolean => lexeme separator .boolean
  | .string => lexeme separator .string
  | .symbol => lexeme separator .symbol
  | .type => lexeme separator .type

end Form

/-- Whether trees in a row have a form, every node among them one that the grammar allows. -/
inductive Derives (separator : Char) : Form → List Tree → Prop where
  /-- A token is a text that is valid. -/
  | token {valid : String → Prop} {text : String} (holds : valid text) :
      Derives separator (.token valid) [.terminal text]
  /-- A node has one of the rules, and its children have the form of that rule. -/
  | node {rules : List Rule} {rule : Rule} {children : List Tree} (listed : rule ∈ rules)
      (inside : Derives separator (Form.ofRule separator rule) children) :
      Derives separator (.node rules) [.node rule children]
  /-- Nothing is an empty row. -/
  | nothing : Derives separator .nothing []
  /-- Two forms one after the other part the row. -/
  | both {first second : Form} {left right : List Tree} (front : Derives separator first left)
      (back : Derives separator second right) : Derives separator (.both first second) (left ++ right)
  /-- The first of two forms may be taken. -/
  | left {first second : Form} {trees : List Tree} (derived : Derives separator first trees) :
      Derives separator (.either first second) trees
  /-- So may the second. -/
  | right {first second : Form} {trees : List Tree} (derived : Derives separator second trees) :
      Derives separator (.either first second) trees
  /-- A form may be repeated no times. -/
  | none {part : Form} : Derives separator (.many part) []
  /-- A form may stand once in front of repetitions of it. -/
  | more {part : Form} {left right : List Tree} (front : Derives separator part left)
      (back : Derives separator (.many part) right) : Derives separator (.many part) (left ++ right)

section Derives

variable {separator : Char} {tree : Tree} {rest : List Tree}

/-- One tree of a form and others of another one. -/
theorem Derives.cons {first second : Form} (front : Derives separator first [tree])
    (back : Derives separator second rest) : Derives separator (.both first second) (tree :: rest) :=
  .both front back

/-- One more tree of a form in front of others. -/
theorem Derives.next {part : Form} (front : Derives separator part [tree])
    (back : Derives separator (.many part) rest) : Derives separator (.many part) (tree :: rest) :=
  .more front back

end Derives

/-- Whether a tree is one that the grammar allows. -/
def Tree.Grammatical (separator : Char) : Tree → Prop
  | .terminal _ => False
  | .node rule children => Derives separator (.ofRule separator rule) children

end Scriptlet

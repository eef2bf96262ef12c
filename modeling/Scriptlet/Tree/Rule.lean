/-! The rules of the grammar that syntax trees follow. -/

namespace Scriptlet

/-- A rule of the grammar. -/
inductive Rule where
  /-- Expressions one after the other. -/
  | sequence
  /-- A name and the expression it is bound to. -/
  | binding
  /-- A condition and the block that is repeated while it holds. -/
  | loop
  /-- The definition of a function with a name. -/
  | namedDefinition
  /-- The definition of a function without a name. -/
  | anonymousDefinition
  /-- A parameter's name and type. -/
  | parameter
  /-- The name of a type. -/
  | type
  /-- Any expression. -/
  | expression
  /-- Antecedents and consequents in turn. -/
  | selection
  /-- What is evaluated where an antecedent holds. -/
  | consequent
  /-- Operands with the word for alternatives between them. -/
  | disjunction
  /-- Operands with the word for joint conditions between them. -/
  | conjunction
  /-- An operand, perhaps behind the word that denies it. -/
  | denial
  /-- Operands with comparisons between them. -/
  | relation
  /-- Operands with sums and differences between them. -/
  | sum
  /-- Operands with products and quotients between them. -/
  | product
  /-- An operand, perhaps behind a minus sign. -/
  | signed
  /-- Operands with powers between them. -/
  | power
  /-- A leaf, a call or an expression in parentheses. -/
  | factor
  /-- A function and its arguments. -/
  | call
  /-- The function of a call. -/
  | callee
  /-- The sequence between braces. -/
  | block
  /-- The items of a list. -/
  | list
  /-- A whole number. -/
  | integer
  /-- A real number. -/
  | real
  /-- A truth value. -/
  | boolean
  /-- A text. -/
  | string
  /-- A name. -/
  | symbol
  deriving Repr, DecidableEq, Inhabited

namespace Rule

/-- All rules. -/
def all : List Rule :=
  [sequence, binding, loop, namedDefinition, anonymousDefinition, parameter, type, expression,
   selection, consequent, disjunction, conjunction, denial, relation, sum, product, signed, power,
   factor, call, callee, block, list, integer, real, boolean, string, symbol]

/-- The name of a rule in tree files and in messages. -/
def name : Rule → String
  | sequence => "sequence"
  | binding => "binding"
  | loop => "while_loop"
  | namedDefinition => "named_fundef"
  | anonymousDefinition => "anon_fundef"
  | parameter => "formal_parameter"
  | type => "type"
  | expression => "expression"
  | selection => "selection_expression"
  | consequent => "consequent"
  | disjunction => "boolean_expression"
  | conjunction => "conjunctive_expression"
  | denial => "logical_negation_expression"
  | relation => "relational_expression"
  | sum => "additive_expression"
  | product => "multiplicative_expression"
  | signed => "unary_expression"
  | power => "exponentiation_expression"
  | factor => "factor"
  | call => "funcall"
  | callee => "funobj"
  | block => "block"
  | list => "list"
  | integer => "integer"
  | real => "real"
  | boolean => "bool"
  | string => "string"
  | symbol => "symbol"

/-- The rule of a name. -/
def ofName? (text : String) : Option Rule :=
  all.find? fun rule => rule.name == text

/-- Whether a node of the rule holds one token and nothing else. -/
def isLexical : Rule → Bool
  | integer | real | boolean | string | symbol | type => true
  | _ => false

/-- Whether a node of the rule holds operands with operators between them. -/
def isChain : Rule → Bool
  | disjunction | conjunction | relation | sum | product | power => true
  | _ => false

/-- Whether a node of the rule holds any number of nodes. -/
def collects : Rule → Bool
  | sequence | namedDefinition | anonymousDefinition | selection | call | list => true
  | _ => false

/-- Whether a node of the rule holds an operand that may stand behind an operator. -/
def isSigned : Rule → Bool
  | denial | signed => true
  | _ => false

/-- Every rule is in the list of all rules. -/
theorem mem_all (rule : Rule) : rule ∈ all := by
  cases rule <;> decide

/-- A rule is found by its name. -/
theorem ofName?_name (rule : Rule) : ofName? rule.name = some rule := by
  cases rule <;> decide

/-- No rule is both a leaf and a chain. -/
theorem not_isLexical_of_isChain (rule : Rule) (chain : rule.isChain = true) :
    rule.isLexical = false := by
  cases rule <;> simp_all [isChain, isLexical]

end Rule

end Scriptlet

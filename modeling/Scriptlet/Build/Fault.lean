import Scriptlet.Decimal.Integer
import Scriptlet.Expr.Shape
import Scriptlet.Tree.Rule

/-! Why a syntax tree means no expression. -/

namespace Scriptlet

/-- What is wrong with a node of a syntax tree. -/
inductive TreeFault where
  /-- The whole tree is one token. -/
  | rootToken
  /-- A token stands where a node is due. -/
  | strayToken (text : String)
  /-- A leaf does not hold one token and nothing else. -/
  | notOneToken
  /-- A leaf belongs to no rule for leaves. -/
  | notLexical
  /-- A truth value is none. -/
  | notBoolean (text : String)
  /-- A name is blank. -/
  | blankSymbol
  /-- Operands and operators do not take turns. -/
  | notAlternating (position : Nat)
  /-- A chain ends with an operator. -/
  | operandMissing
  /-- The operators of a chain are not one less than its operands. -/
  | countsDiffer
  /-- A chain has no operands. -/
  | emptyChain
  /-- A node belongs to no rule for signs. -/
  | notSigned
  /-- Something other than a name is to be bound. -/
  | notBindable (target : String)
  /-- The body of a loop is no block. -/
  | bodyNotBlock
  /-- A parameter is not made of two names. -/
  | notParameter
  /-- The parts of a definition do not make one. -/
  | badDefinition (fault : ShapeFault)
  /-- A definition with a name has no parts. -/
  | functionNameMissing
  /-- A definition's name is something else. -/
  | notFunctionName (found : String)
  /-- The last antecedent has no consequent. -/
  | consequentMissing
  /-- A call has no parts. -/
  | functionMissing
  /-- Something other than a function is to be called. -/
  | notCallable (found : String)
  /-- A block holds several expressions. -/
  | severalSequences
  /-- One operand is needed. -/
  | notOneOperand
  /-- Two operands are needed. -/
  | notTwoOperands
  /-- A node belongs to no rule for any number of nodes. -/
  | notCollecting
  /-- Fewer expressions are at hand than the node has parts. -/
  | partsMissing
  /-- A mark lies among the parts of a node. -/
  | strayMark
  /-- No mark lies below the parts of a node. -/
  | markMissing
  /-- A mark is left at the end. -/
  | markLeft
  /-- Other than one expression is left at the end. -/
  | notOneLeft (count : Nat)
  deriving Repr, DecidableEq

/-- The fault in words. -/
def TreeFault.message : TreeFault → String
  | rootToken => "tree root is a terminal"
  | strayToken text => "unexpected terminal \x60" ++ text ++ "\x60"
  | notOneToken => "expected a single terminal"
  | notLexical => "not a lexical rule"
  | notBoolean text => "\x60" ++ text ++ "\x60 is not a boolean"
  | blankSymbol => "empty symbol"
  | notAlternating position => s!"operands and operators do not alternate at position {position}"
  | operandMissing => "chain ends with an operator"
  | countsDiffer => "operand count does not match operators"
  | emptyChain => "empty chain"
  | notSigned => "not a prefix rule"
  | notBindable target => s!"cannot bind to {target}"
  | bodyNotBlock => "body is not a block"
  | notParameter => "expected a name and a type"
  | badDefinition fault => fault.message
  | functionNameMissing => "missing function name"
  | notFunctionName found => s!"{found} is not a function name"
  | consequentMissing => "antecedent without consequent"
  | functionMissing => "missing function"
  | notCallable found => s!"{found} is not callable"
  | severalSequences => "expected one sequence"
  | notOneOperand => "expected exactly one operand"
  | notTwoOperands => "expected exactly two operands"
  | notCollecting => "not a variadic rule"
  | partsMissing => "missing operands"
  | strayMark => "unexpected sentinel"
  | markMissing => "missing sentinel"
  | markLeft => "unterminated variadic rule"
  | notOneLeft count => s!"walk left {count} stack entries"

/-- Why no expression can be built from a syntax tree. -/
inductive BuildError where
  /-- A number is not written as one. -/
  | badNumber (text : String) (fault : Decimal.NumberFault)
  /-- A type has an unknown name. -/
  | unknownType (text : String)
  /-- An operator is unknown, or not one of the rule. -/
  | unknownOperator (rule : Rule) (text : String)
  /-- A node is not as its rule requires. -/
  | malformed (rule : Rule) (fault : TreeFault)
  deriving Repr, DecidableEq

/-- The error in words. -/
def BuildError.message : BuildError → String
  | badNumber text fault => "malformed number \x60" ++ text ++ "\x60: " ++ fault.message
  | unknownType text => "unknown type \x60" ++ text ++ "\x60"
  | unknownOperator rule text => "unknown operator \x60" ++ text ++ "\x60 in " ++ rule.name
  | malformed rule fault => s!"malformed {rule.name}: {fault.message}"

end Scriptlet

import Scriptlet.Build.Stack

/-! The two ways to build an expression from a syntax tree. -/

namespace Scriptlet

namespace Build

/-!
Building by descent: the nodes below a node are read before the node is put together.

A node's own tokens are looked at first, so what is wrong with them is told before anything below.
-/

mutual

/-- The expression that a node means. -/
def descend (separator : Char) : Tree → Except BuildError Expr
  | .terminal text => .error (.malformed .sequence (.strayToken text))
  | .node rule children => do
    if rule.isLexical then
      readLeaf separator rule children
    else if rule.isChain then
      let (_, operations) ← chain rule children
      let operands ← descendAll separator children
      joinChain rule operands operations
    else if rule.collects then
      let parts ← descendAll separator children
      assembleAny rule parts
    else
      if rule.isSigned then discard (sign rule children)
      let parts ← descendAll separator children
      assembleFixed rule children parts

/-- The expressions that the nodes among some trees mean, from left to right. -/
def descendAll (separator : Char) : List Tree → Except BuildError (List Expr)
  | [] => .ok []
  | .terminal _ :: rest => descendAll separator rest
  | .node rule children :: rest => do
    let expr ← descend separator (.node rule children)
    let exprs ← descendAll separator rest
    return expr :: exprs

end

end Build

/-- A way to build expressions. -/
inductive Builder where
  /-- A listener builds on a stack while it walks through the tree. -/
  | listener
  /-- A visitor descends into the tree. -/
  | visitor
  deriving Repr, DecidableEq, Inhabited

namespace Builder

/-- The name of a builder. -/
def name : Builder → String
  | listener => "listener"
  | visitor => "visitor"

/-- The builder that a word in small letters names. -/
def ofName? (word : String) : Option Builder :=
  if word == "listener" then some listener
  else if word == "visitor" then some visitor
  else none

/-- Build the expression that a tree means, with the given decimal separator. -/
def build (builder : Builder) (separator : Char) : Tree → Except BuildError Expr
  | .terminal _ => .error (.malformed .sequence .rootToken)
  | .node rule children =>
    match builder with
    | listener => Build.stackUp separator rule (.node rule children)
    | visitor => Build.descend separator (.node rule children)

/-- A builder is found by its name. -/
theorem ofName?_name (builder : Builder) : ofName? builder.name = some builder := by
  cases builder <;> decide

end Builder

end Scriptlet

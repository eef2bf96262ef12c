import Scriptlet.Text
import Scriptlet.Tree.Rule

/-! Syntax trees, as a parser hands them over. -/

namespace Scriptlet

/-- A syntax tree. -/
inductive Tree where
  /-- A token. -/
  | terminal (text : String)
  /-- What a rule of the grammar was recognised in. -/
  | node (rule : Rule) (children : List Tree)
  deriving Repr, Inhabited

namespace Tree

/-- The rule of a node. -/
def rule? : Tree → Option Rule
  | terminal _ => none
  | node rule _ => some rule

/-- The text of a token. -/
def text? : Tree → Option String
  | terminal text => some text
  | node .. => none

/-- The children of a node; a token has none. -/
def children : Tree → List Tree
  | terminal _ => []
  | node _ children => children

/-- Whether a tree is a node. -/
def isNode : Tree → Bool
  | terminal _ => false
  | node .. => true

/-- Whether a tree is the token that spells a keyword, in letters of either case. -/
def isKeyword (keyword : String) : Tree → Bool
  | terminal text => Text.sameWord text keyword
  | node .. => false

/-- The nodes among some trees. -/
def nodes (trees : List Tree) : List Tree :=
  trees.filter isNode

/-- The texts of the tokens among some trees. -/
def tokens (trees : List Tree) : List String :=
  trees.filterMap text?

/--
A tree that is wrapped, so many times, into a node of a rule with tokens around it.

Deep trees are made by it, to try what has to get to the bottom of them.
-/
def nest (rule : Rule) (before after : List String) : Nat → Tree → Tree
  | 0, tree => tree
  | times + 1, tree =>
    nest rule before after times
      (node rule (before.map terminal ++ tree :: after.map terminal))

end Tree

end Scriptlet

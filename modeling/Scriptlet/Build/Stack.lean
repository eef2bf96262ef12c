import Scriptlet.Build.Assembly
import Scriptlet.Build.Leaf
import Scriptlet.Tree.Walk

/-!
Building on a stack while a walk goes through the tree.

Every node leaves one expression on the stack, so a node finds those of the nodes below it on top.
Nodes with any number of parts put down a mark first and later take everything above it.
-/

namespace Scriptlet.Build

/-- An entry of the stack. -/
inductive Entry where
  /-- The place where the parts of a node start. -/
  | mark
  /-- An expression that belongs to no node yet. -/
  | built (expr : Expr)
  deriving DecidableEq

/-- What is done to a stack, whose top comes first. -/
abbrev Stacking := EStateM BuildError (List Entry)

/-- The outcome of putting a node together. -/
def Stacking.ofExcept {α : Type} : Except BuildError α → Stacking α
  | .ok result => pure result
  | .error error => throw error

/-- The expressions among entries, if there are no marks among them. -/
def allBuilt? : List Entry → Option (List Expr)
  | [] => some []
  | .mark :: _ => none
  | .built expr :: rest => (allBuilt? rest).map (expr :: ·)

/-- The expressions above the nearest mark, before those given, and what lies below the mark. -/
def aboveMark? : (above : List Expr) → List Entry → Option (List Expr × List Entry)
  | _, [] => none
  | above, .mark :: below => some (above, below)
  | above, .built expr :: rest => aboveMark? (expr :: above) rest

/-- Take so many expressions from the stack, in the order in which they were put there. -/
def take (rule : Rule) (count : Nat) : Stacking (List Expr) := do
  let stack ← get
  let top := stack.take count
  if top.length < count then throw (.malformed rule .partsMissing)
  set (stack.drop count)
  match allBuilt? top.reverse with
  | some exprs => return exprs
  | none => throw (.malformed rule .strayMark)

/-- Take the nearest mark and all that lies above it. -/
def takeToMark (rule : Rule) : Stacking (List Expr) := do
  match aboveMark? [] (← get) with
  | some (exprs, below) =>
    set below
    return exprs
  | none =>
    set ([] : List Entry)
    throw (.malformed rule .markMissing)

/-- Put a node together from what lies on the stack. -/
def reduce (separator : Char) (rule : Rule) (children : List Tree) : Stacking Expr := do
  if rule.collects then
    let parts ← takeToMark rule
    .ofExcept (assembleAny rule parts)
  else if rule.isLexical then
    .ofExcept (readLeaf separator rule children)
  else if rule.isChain then
    let (operands, operations) ← Stacking.ofExcept (chain rule children)
    let parts ← take rule operands.length
    .ofExcept (joinChain rule parts operations)
  else
    let parts ← take rule (Tree.nodes children).length
    .ofExcept (assembleFixed rule children parts)

/-- A listener that builds on a stack. -/
def stacker (separator : Char) : Listener (List Entry) BuildError where
  enter rule _ := do
    if rule.collects then modify (.mark :: ·)
  leave rule children := do
    let expr ← reduce separator rule children
    modify (.built expr :: ·)
  token _ := pure ()

/-- The only expression on a stack. -/
def onlyBuilt (rule : Rule) : List Entry → Except BuildError Expr
  | [.built expr] => .ok expr
  | .mark :: _ => .error (.malformed rule .markLeft)
  | .built _ :: below => .error (.malformed rule (.notOneLeft (below.length + 1)))
  | [] => .error (.malformed rule (.notOneLeft 1))

/-- The expression that is left after a walk through a tree with a rule at its root. -/
def stackUp (separator : Char) (rule : Rule) (tree : Tree) : Except BuildError Expr :=
  match (tree.walk (stacker separator)).run [] with
  | .ok _ stack => onlyBuilt rule stack
  | .error error _ => .error error

end Scriptlet.Build

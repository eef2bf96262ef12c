import Scriptlet.Build.Fault
import Scriptlet.Text
import Scriptlet.Tree.Basic

/-! What a node means once the nodes below it have been read. -/

namespace Scriptlet.Build

/-! Chains of operands and operators. -/

/-- Whether an operation is among those of a rule for chains. -/
def allows : Rule → Operation → Bool
  | .disjunction, operation => operation == .either
  | .conjunction, operation => operation == .both
  | .relation, operation =>
    operation == .equal || operation == .notEqual || operation == .greater || operation == .less ||
      operation == .greaterOrEqual || operation == .lessOrEqual ||
      operation == .approximatelyEqual || operation == .member
  | .sum, operation => operation == .add || operation == .subtract
  | .product, operation => operation == .multiply || operation == .divide
  | .power, operation => operation == .power
  | _, _ => false

/-- The operation of an operator in a chain. -/
def chainOperation (rule : Rule) (text : String) : Except BuildError Operation :=
  match Operation.ofOperator? (Text.trim text) with
  | some operation =>
    if allows rule operation then .ok operation else .error (.unknownOperator rule text)
  | none => .error (.unknownOperator rule text)

/-- Tell operands from operators; at even positions operands are due. -/
def chainFrom (rule : Rule) :
    (position : Nat) → List Tree → Except BuildError (List Tree × List Operation)
  | _, [] => .ok ([], [])
  | position, .node inner children :: rest => do
    if position % 2 != 0 then throw (.malformed rule (.notAlternating position))
    let (operands, operations) ← chainFrom rule (position + 1) rest
    return (.node inner children :: operands, operations)
  | position, .terminal text :: rest => do
    if position % 2 == 0 then throw (.malformed rule (.notAlternating position))
    let operation ← chainOperation rule text
    let (operands, operations) ← chainFrom rule (position + 1) rest
    return (operands, operation :: operations)

/-- The operands and the operations of a chain. -/
def chain (rule : Rule) (children : List Tree) :
    Except BuildError (List Tree × List Operation) := do
  let (operands, operations) ← chainFrom rule 0 children
  if operands.length != operations.length + 1 then throw (.malformed rule .operandMissing)
  return (operands, operations)

/-- Operations on operands, the first ones innermost. -/
def nestLeft : Expr → List Operation → List Expr → Expr
  | left, operation :: operations, right :: operands =>
    nestLeft (.plain operation [left, right]) operations operands
  | left, _, _ => left

/-- Operations on operands, the last ones innermost. -/
def nestRight : Expr → List Operation → List Expr → Expr
  | left, operation :: operations, right :: operands =>
    .plain operation [left, nestRight right operations operands]
  | left, _, _ => left

/-- The meaning of a chain; powers nest to the right and everything else to the left. -/
def joinChain (rule : Rule) (operands : List Expr) (operations : List Operation) :
    Except BuildError Expr := do
  if operands.length != operations.length + 1 then throw (.malformed rule .countsDiffer)
  match operands with
  | [] => throw (.malformed rule .emptyChain)
  | first :: others =>
    if rule == .power then return nestRight first operations others
    else return nestLeft first operations others

/-! Operands behind an operator. -/

/-- The operator of a rule for signs, and its operation. -/
def signOf? : Rule → Option (String × Operation)
  | .denial => some ("not", .negation)
  | .signed => some ("-", .negate)
  | _ => none

/-- The operation in front of an operand, if there is one. -/
def sign (rule : Rule) (children : List Tree) : Except BuildError (Option Operation) :=
  match signOf? rule with
  | none => .error (.malformed rule .notSigned)
  | some (keyword, operation) =>
    match Tree.tokens children with
    | [] => .ok none
    | [text] =>
      if Text.sameWord (Text.trim text) keyword then .ok (some operation)
      else .error (.unknownOperator rule text)
    | text :: _ => .error (.unknownOperator rule text)

/-- An operand behind an operation, if there is one. -/
def applySign : Option Operation → Expr → Expr
  | some operation, operand => .plain operation [operand]
  | none, operand => operand

/-! Nodes with a fixed number of parts. -/

/-- The only part of a node. -/
def one (rule : Rule) : List Expr → Except BuildError Expr
  | [part] => .ok part
  | _ => .error (.malformed rule .notOneOperand)

/-- The two parts of a node. -/
def two (rule : Rule) : List Expr → Except BuildError (Expr × Expr)
  | [first, second] => .ok (first, second)
  | _ => .error (.malformed rule .notTwoOperands)

/-- A name bound to a value. -/
def bind (target value : Expr) : Except BuildError Expr :=
  if target.symbol?.isSome then .ok (.plain .bind [target, value])
  else .error (.malformed .binding (.notBindable target.text))

/-- A block repeated under a condition. -/
def loop (condition body : Expr) : Except BuildError Expr :=
  if body.operation? == some .sequence then .ok (.plain .loop [condition, body])
  else .error (.malformed .loop .bodyNotBlock)

/-- A parameter and its type. -/
def parameter (name type : Expr) : Except BuildError Expr :=
  if name.symbol?.isSome && type.symbol?.isSome then .ok (.plain .pair [name, type])
  else .error (.malformed .parameter .notParameter)

/-- The sequence in a block; anything else in it becomes a sequence of its own. -/
def block : List Expr → Except BuildError Expr
  | [] => .ok (.plain .sequence [])
  | [body] =>
    if body.operation? == some .sequence then .ok body else .ok (.plain .sequence [body])
  | _ => .error (.malformed .block .severalSequences)

/-- The meaning of a node that holds a fixed number of nodes, leaves and chains aside. -/
def assembleFixed (rule : Rule) (children : List Tree) (parts : List Expr) :
    Except BuildError Expr :=
  match rule with
  | .binding => do
    let (target, value) ← two rule parts
    bind target value
  | .loop => do
    let (condition, body) ← two rule parts
    loop condition body
  | .parameter => do
    let (name, type) ← two rule parts
    parameter name type
  | .block => block parts
  | .denial | .signed => do
    let operation ← sign rule children
    return applySign operation (← one rule parts)
  | _ => one rule parts

/-! Nodes with any number of parts. -/

/-- The definition of a function: its parameters, perhaps its return type, and its body. -/
def define (rule : Rule) (name : Option Name) (parts : List Expr) : Except BuildError Expr :=
  match Expr.definition .define parts with
  | .ok _ => .ok (.node .define name parts)
  | .error error => .error (.malformed rule (.badDefinition error.fault))

/-- The definition of a function whose name is the first part. -/
def defineNamed : List Expr → Except BuildError Expr
  | [] => .error (.malformed .namedDefinition .functionNameMissing)
  | .symbol name :: parts => define .namedDefinition (some name) parts
  | other :: _ => .error (.malformed .namedDefinition (.notFunctionName other.text))

/-- Neighbours paired up; an odd one at the end gives nothing. -/
def pairUp? : List Expr → Option (List Expr)
  | [] => some []
  | [_] => none
  | first :: second :: rest => (pairUp? rest).map (.plain .pair [first, second] :: ·)

/-- A selection from antecedents and consequents in turn. -/
def select (parts : List Expr) : Except BuildError Expr :=
  match pairUp? parts with
  | some arms => .ok (.plain .select arms)
  | none => .error (.malformed .selection .consequentMissing)

/-- A call from the function and its arguments; a function is given by name or by definition. -/
def call : List Expr → Except BuildError Expr
  | [] => .error (.malformed .call .functionMissing)
  | .symbol name :: arguments => .ok (.node .call (some name) arguments)
  | .node .define none parts :: arguments =>
    .ok (.plain .call (.node .define none parts :: arguments))
  | other :: _ => .error (.malformed .call (.notCallable other.text))

/-- The meaning of a node that holds any number of nodes. -/
def assembleAny (rule : Rule) (parts : List Expr) : Except BuildError Expr :=
  match rule with
  | .sequence => .ok (.plain .sequence parts)
  | .list => .ok (.plain .list parts)
  | .namedDefinition => defineNamed parts
  | .anonymousDefinition => define rule none parts
  | .selection => select parts
  | .call => call parts
  | _ => .error (.malformed rule .notCollecting)

end Scriptlet.Build

import Scriptlet.Expr.Basic

/-! The shapes that operations require of their nodes, and what a node out of shape is told. -/

namespace Scriptlet

/-- What is wrong with the shape of a node. -/
inductive ShapeFault where
  /-- The operation takes another number of children. -/
  | childCount (expected found : Nat)
  /-- Two children are needed at this place. -/
  | notTwo (found : Nat)
  /-- One child is needed at this place. -/
  | notOne (found : Nat)
  /-- Only leaves stand for names. -/
  | innerSymbol
  /-- An arm of a selection is no pair. -/
  | armNotPair (arm : String)
  /-- A binding does not start with a name. -/
  | targetNotSymbol
  /-- A call without a name does not start with a definition. -/
  | noFunction
  /-- The node is no definition. -/
  | notDefinition
  /-- A definition has no body. -/
  | noBody
  /-- The body of a definition is no sequence. -/
  | bodyNotSequence
  /-- A parameter is not a pair of names. -/
  | badParameter
  /-- A child of a definition is neither parameter, return type nor body. -/
  | strayChild (position : Nat)
  /-- A parameter or return type is not the name of a type. -/
  | unknownType (name : Name)
  /-- A pair stands outside a selection. -/
  | strayPair
  /-- The operation does not take two values. -/
  | notBinary
  /-- The operation does no arithmetic. -/
  | notArithmetic
  /-- The operation does not compare. -/
  | notComparison
  /-- The operation does not take one value. -/
  | notUnary
  /-- The operation does not stop at its first operand. -/
  | notShortCircuit
  deriving Repr, DecidableEq

/-- The fault in words. -/
def ShapeFault.message : ShapeFault → String
  | childCount expected found => s!"expected {expected} children, found {found}"
  | notTwo found => s!"expected 2 children, found {found}"
  | notOne found => s!"expected 1 child, found {found}"
  | innerSymbol => "symbols must be leaves"
  | armNotPair arm => s!"expected PAIR, found {arm}"
  | targetNotSymbol => "binding target is not a symbol"
  | noFunction => "anonymous call without a function"
  | notDefinition => "not a function definition"
  | noBody => "missing body"
  | bodyNotSequence => "body is not a sequence"
  | badParameter => "malformed formal parameter"
  | strayChild position => s!"unexpected child at position {position}"
  | unknownType name => "unknown type \x60" ++ name.text ++ "\x60"
  | strayPair => "pair outside a selection"
  | notBinary => "not a strict binary operator"
  | notArithmetic => "not an arithmetic operator"
  | notComparison => "not a comparison operator"
  | notUnary => "not a unary operator"
  | notShortCircuit => "not a short-circuit operator"

/-- A node out of shape. -/
structure ShapeError where
  /-- The operation of the node. -/
  operation : Operation
  /-- What is wrong with it. -/
  fault : ShapeFault
  deriving Repr, DecidableEq

/-- The error in words. -/
def ShapeError.message (error : ShapeError) : String :=
  s!"malformed {error.operation.mnemonic} node: {error.fault.message}"

/-- The parts of a function's definition. -/
structure Definition where
  /-- The parameters with the names of their types. -/
  params : List (Name × Name)
  /-- The name of the return type, where there is one. -/
  returnType : Option Name
  /-- The sequence that a call evaluates. -/
  body : Expr
  deriving DecidableEq

namespace Expr

/-- The two children of a node that must have two. -/
def pair (operation : Operation) : List Expr → Except ShapeError (Expr × Expr)
  | [left, right] => .ok (left, right)
  | others => .error ⟨operation, .notTwo others.length⟩

/-- The child of a node that must have one. -/
def single (operation : Operation) : List Expr → Except ShapeError Expr
  | [child] => .ok child
  | others => .error ⟨operation, .notOne others.length⟩

/-- The parameters and the return type in front of a definition's body; `position` counts them. -/
def header (operation : Operation) (position : Nat) :
    List Expr → Except ShapeError (List (Name × Name) × Option Name)
  | [] => .ok ([], none)
  | node .pair _ children :: rest =>
    match children with
    | [symbol name, symbol type] => do
      let (params, returnType) ← header operation (position + 1) rest
      return ((name, type) :: params, returnType)
    | _ => .error ⟨operation, .badParameter⟩
  -- A bare name is the return type, and only directly in front of the body.
  | [symbol type] => .ok ([], some type)
  | _ => .error ⟨operation, .strayChild position⟩

/-- The parts of a definition. -/
def definition (operation : Operation) (children : List Expr) : Except ShapeError Definition := do
  if operation != .define then throw ⟨operation, .notDefinition⟩
  match children.getLast? with
  | none => throw ⟨operation, .noBody⟩
  | some body =>
    if body.operation? != some .sequence then throw ⟨operation, .bodyNotSequence⟩
    let (params, returnType) ← header operation 0 children.dropLast
    return ⟨params, returnType, body⟩

/-- What the operation of a node requires beyond the number of its children. -/
def checkChildren (name : Option Name) (children : List Expr) : Operation → Except ShapeError Unit
  | .symbol => .error ⟨.symbol, .innerSymbol⟩
  | .select =>
    match children.find? fun child => child.operation? != some .pair with
    | some child => .error ⟨.select, .armNotPair child.text⟩
    | none => .ok ()
  | .bind =>
    match children.head?.bind symbol? with
    | some _ => .ok ()
    | none => .error ⟨.bind, .targetNotSymbol⟩
  | .define => (definition .define children).map fun _ => ()
  | .call =>
    if name.isNone && children.head?.bind operation? != some .define then
      .error ⟨.call, .noFunction⟩
    else .ok ()
  | _ => .ok ()

/-- What the operation of a node requires of it. -/
def checkNode (operation : Operation) (name : Option Name) (children : List Expr) :
    Except ShapeError Unit :=
  match operation.arity with
  | .fixed expected =>
    if expected == children.length then checkChildren name children operation
    else .error ⟨operation, .childCount expected children.length⟩
  | .variadic => checkChildren name children operation

mutual

/-- Check the shape of every node, a node before its children. -/
def validate : Expr → Except ShapeError Unit
  | node operation name children => do
    checkNode operation name children
    validateAll children
  | _ => .ok ()

/-- Check the shape of every node of some expressions, from left to right. -/
def validateAll : List Expr → Except ShapeError Unit
  | [] => .ok ()
  | expr :: rest => do
    expr.validate
    validateAll rest

end

end Expr

end Scriptlet

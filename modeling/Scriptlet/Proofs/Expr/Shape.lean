import Scriptlet.Expr.Shape
import Scriptlet.Proofs.Outcome

/-! What a checked shape means for the nodes of an expression. -/

namespace Scriptlet.Expr

section Nodes

variable (law : Operation → Option Name → List Expr → Prop)

mutual

/-- Whether every node of an expression keeps a law; leaves are not asked. -/
def AllNodes : Expr → Prop
  | node operation name children => law operation name children ∧ AllNodesIn children
  | _ => True

/-- Whether every node of some expressions keeps a law. -/
def AllNodesIn : List Expr → Prop
  | [] => True
  | expr :: rest => expr.AllNodes ∧ AllNodesIn rest

end

variable {law}

/-- All nodes of a list keep a law exactly when those of each of its items do. -/
theorem allNodesIn_iff (exprs : List Expr) :
    AllNodesIn law exprs ↔ ∀ expr ∈ exprs, expr.AllNodes law := by
  -- A list keeps the law where its first item and its rest do.
  induction exprs with
  | nil => simp [AllNodesIn]
  | cons expr rest ih => simp [AllNodesIn, ih]

mutual

/-- Nodes that keep a law keep any law that it implies. -/
theorem AllNodes.imp {weaker : Operation → Option Name → List Expr → Prop}
    (implies : ∀ operation name children, law operation name children →
      weaker operation name children) : (expr : Expr) → expr.AllNodes law → expr.AllNodes weaker
  -- A leaf has no law to keep, and a node passes it on with its children.
  | literal .., _ | symbol _, _ => trivial
  | node operation name children, keep =>
    ⟨implies operation name children keep.1, AllNodesIn.imp implies children keep.2⟩

/-- Nodes of some expressions that keep a law keep any law that it implies. -/
theorem AllNodesIn.imp {weaker : Operation → Option Name → List Expr → Prop}
    (implies : ∀ operation name children, law operation name children →
      weaker operation name children) : (exprs : List Expr) → AllNodesIn law exprs →
      AllNodesIn weaker exprs
  | [], _ => trivial
  | expr :: rest, keep => ⟨AllNodes.imp implies expr keep.1, AllNodesIn.imp implies rest keep.2⟩

end

end Nodes

/-- What the check of a node makes sure of. -/
structure Checked (operation : Operation) (name : Option Name) (children : List Expr) : Prop where
  /-- Only leaves stand for names. -/
  inner : operation ≠ .symbol
  /-- The operation takes so many children. -/
  count : operation.arity.accepts children.length = true
  /-- A binding starts with a name. -/
  target : operation = .bind → ∃ bound value, children = [symbol bound, value]
  /-- The arms of a selection are pairs. -/
  arms : operation = .select → ∀ child ∈ children, child.operation? = some .pair
  /-- A definition has all its parts. -/
  parts : operation = .define → ∃ parts, definition .define children = .ok parts
  /-- A call without a name starts with a definition. -/
  callee : operation = .call → name = none →
    ∃ function arguments, children = function :: arguments ∧ function.operation? = some .define

/-- The shape of a node by the table of operations, which asks for more than is ever checked. -/
structure WellShaped (operation : Operation) (name : Option Name) (children : List Expr) : Prop
    extends Checked operation name children where
  /-- The body of a loop is a sequence. -/
  body : operation = .loop → ∃ condition items, children = [condition, plain .sequence items]
  /-- The arms of a selection have two children each. -/
  branches : operation = .select → ∀ child ∈ children, ∃ antecedent consequent,
    child = plain .pair [antecedent, consequent]
  /-- A call without a name starts with a definition without a name. -/
  anonymous : operation = .call → name = none →
    ∃ parts arguments, children = plain .define parts :: arguments
  /-- Only definitions and calls have names. -/
  named : name.isSome = true → operation = .define ∨ operation = .call

variable {operation : Operation} {name : Option Name} {children : List Expr}

/-- An operation that takes two children is given two. -/
theorem children_of_accepts_two (two : operation.arity = .fixed 2)
    (count : operation.arity.accepts children.length = true) :
    ∃ first second, children = [first, second] := by
  -- Any other number of children is refused.
  rw [two, Arity.accepts, beq_iff_eq] at count
  rcases children with _ | ⟨first, _ | ⟨second, _ | ⟨third, rest⟩⟩⟩ <;> simp at count
  exact ⟨first, second, rfl⟩

/-- An operation that takes one child is given one. -/
theorem child_of_accepts_one (one : operation.arity = .fixed 1)
    (count : operation.arity.accepts children.length = true) :
    ∃ child, children = [child] := by
  -- Any other number of children is refused.
  rw [one, Arity.accepts, beq_iff_eq] at count
  rcases children with _ | ⟨child, _ | ⟨other, rest⟩⟩ <;> simp at count
  exact ⟨child, rfl⟩

/-- The check of a node counts its children, and then looks at them. -/
theorem checkNode_eq_ok_iff_count : checkNode operation name children = .ok () ↔
    operation.arity.accepts children.length = true ∧
      checkChildren name children operation = .ok () := by
  unfold checkNode Arity.accepts
  -- Only a fixed number is counted; the other operations take any number.
  cases operation.arity with
  | fixed expected =>
    simp only
    split
    case isTrue enough => simp [enough]
    case isFalse other => simp [other]
  | variadic => simp

/-- The check of a node passes exactly when the node has what is checked. -/
theorem checkNode_eq_ok_iff : checkNode operation name children = .ok () ↔
    Checked operation name children := by
  rw [checkNode_eq_ok_iff_count]
  constructor
  · rintro ⟨count, passed⟩
    -- Each operation asks for one thing at most, so each part of the claim is about one of them.
    refine ⟨?_, count, ?_, ?_, ?_, ?_⟩
    · rintro rfl
      cases passed
    · rintro rfl
      obtain ⟨target, value, rfl⟩ := children_of_accepts_two rfl count
      cases target with
      | symbol bound => exact ⟨bound, value, rfl⟩
      | literal | node => cases passed
    · rintro rfl
      cases stray : children.find? fun child => child.operation? != some .pair with
      | none => simpa using stray
      | some child => simp [checkChildren, stray] at passed
    · rintro rfl
      obtain ⟨parts, found, -⟩ := map_eq_ok.mp passed
      exact ⟨parts, found⟩
    · rintro rfl rfl
      cases children with
      | nil => cases passed
      | cons function arguments =>
        refine ⟨function, arguments, rfl, ?_⟩
        by_cases defines : function.operation? = some .define
        · exact defines
        · simp [checkChildren, defines] at passed
  · intro checked
    refine ⟨checked.count, ?_⟩
    -- Only the operations below look at their children.
    cases operation
    case symbol => exact absurd rfl checked.inner
    case bind =>
      obtain ⟨bound, value, rfl⟩ := checked.target rfl
      rfl
    case select =>
      have none : children.find? (fun child => child.operation? != some .pair) = none := by
        simpa using checked.arms rfl
      simp only [checkChildren, none]
    case define =>
      obtain ⟨parts, found⟩ := checked.parts rfl
      simp [checkChildren, found, Except.map]
    case call =>
      cases name with
      | some name => rfl
      | none =>
        obtain ⟨function, arguments, rfl, defines⟩ := checked.callee rfl rfl
        simp [checkChildren, defines]
    all_goals rfl

mutual

/-- The check of an expression passes exactly when every node has what is checked. -/
theorem validate_eq_ok_iff : (expr : Expr) → (expr.validate = .ok () ↔ expr.AllNodes Checked)
  | literal .. | symbol _ => by simp [validate, AllNodes]
  | node operation name children => by
    -- A node is checked first, and then what lies below it.
    have below := validateAll_eq_ok_iff children
    rw [validate, check_bind_eq_ok, checkNode_eq_ok_iff, below, AllNodes]

/-- The check of some expressions passes exactly when every node of them has what is checked. -/
theorem validateAll_eq_ok_iff : (exprs : List Expr) →
    (validateAll exprs = .ok () ↔ AllNodesIn Checked exprs)
  | [] => by simp [validateAll, AllNodesIn]
  | expr :: rest => by
    -- The first expression is checked, and then the others.
    have first := validate_eq_ok_iff expr
    have others := validateAll_eq_ok_iff rest
    rw [validateAll, check_bind_eq_ok, first, others, AllNodesIn]

end

/-- The check of a node passes exactly when the node has what is checked and its children pass. -/
theorem validate_node_iff : (node operation name children).validate = .ok () ↔
    Checked operation name children ∧ ∀ child ∈ children, child.validate = .ok () := by
  -- What is checked of all nodes is checked of the node itself and of those below.
  rw [validate_eq_ok_iff, AllNodes, allNodesIn_iff]
  simp only [validate_eq_ok_iff]

/-- A definition ends in its body, a sequence, and all in front of that is its header. -/
theorem definition_eq_ok {parts : Definition} (shaped : definition operation children = .ok parts) :
    children.getLast? = some parts.body ∧ parts.body.operation? = some .sequence ∧
      header operation 0 children.dropLast = .ok (parts.params, parts.returnType) := by
  unfold definition at shaped
  simp only [throw_eq_error, error_bind, pure_eq_ok] at shaped
  -- Of the four ways in which the parts may be missing, none gives any.
  split at shaped
  · cases shaped
  · cases last : children.getLast? with
    | none => simp [last] at shaped
    | some body =>
      simp only [last] at shaped
      split at shaped
      · cases shaped
      case isFalse sequence =>
        obtain ⟨⟨params, returnType⟩, front, same⟩ := bind_eq_ok.mp shaped
        cases same
        exact ⟨rfl, by simpa using sequence, front⟩

end Scriptlet.Expr

import Scriptlet.Proofs.Expr.Shape
import Scriptlet.ValueType

/-!
Where pairs stand in an expression, and what its definitions say of types.

Main statement: a definition that is put together from parameters, a return type and a body passes
the check of definitions, and what is put together from clear expressions is clear again.
-/

namespace Scriptlet.Expr

/-- A parameter as it stands in a definition. -/
def typed (parameter : Name × ValueType) : Expr :=
  plain .pair [symbol parameter.1, symbol ⟨parameter.2.name⟩]

/-- The children of a definition: its parameters, perhaps its return type, and its body. -/
def defining (params : List (Name × ValueType)) (result : Option ValueType) (items : List Expr) :
    List Expr :=
  params.map typed ++ (result.map fun type => symbol ⟨type.name⟩).toList ++ [plain .sequence items]

/-- What a tree of the grammar makes sure of beyond the shape that is checked. -/
structure Tidy (operation : Operation) (name : Option Name) (children : List Expr) : Prop where
  /-- Pairs stand only in selections and definitions. -/
  pairs : operation ≠ .select → operation ≠ .define →
    ∀ child ∈ children, child.operation? ≠ some .pair
  /-- In a definition the pairs are its parameters, and all types are given by their names. -/
  types : operation = .define → ∃ params result items, children = defining params result items

/-- Whether an expression is tidy all through and no pair itself. -/
def Clear (expr : Expr) : Prop :=
  expr.AllNodes Tidy ∧ expr.operation? ≠ some .pair

/-- A node that is neither a pair nor a definition is clear if all below it is. -/
theorem clear_node {operation : Operation} {name : Option Name} {children : List Expr}
    (pair : operation ≠ .pair) (define : operation ≠ .define)
    (below : ∀ child ∈ children, child.Clear) : (node operation name children).Clear := by
  -- No child is a pair, and a definition is excluded.
  have tidy : Tidy operation name children :=
    ⟨fun _ _ child member => (below child member).2, fun same => absurd same define⟩
  refine ⟨⟨tidy, (allNodesIn_iff children).mpr fun child member => (below child member).1⟩, ?_⟩
  simpa [operation?] using pair

/-- A name is clear. -/
theorem clear_symbol (name : Name) : (symbol name).Clear :=
  ⟨trivial, by simp [operation?]⟩

/-- A pair of clear expressions is tidy, though no pair is clear. -/
theorem tidy_pair {first second : Expr} (left : first.Clear) (right : second.Clear) :
    (plain .pair [first, second]).AllNodes Tidy := by
  -- Its parts are no pairs, and a pair makes no definition.
  refine ⟨⟨fun _ _ => by simp [left.2, right.2], nofun⟩, ?_⟩
  exact ⟨left.1, right.1, trivial⟩

/-- A name with a second name for its type, whether there is such a type or not. -/
def declared (param : Name × Name) : Expr :=
  plain .pair [symbol param.1, symbol param.2]

/-- The children of a definition that is given by names alone, its body aside. -/
def declaring (params : List (Name × Name)) (result : Option Name) (body : Expr) : List Expr :=
  params.map declared ++ (result.map symbol).toList ++ [body]

/-- The header of a definition is read back from its parameters and its return type. -/
theorem header_declaring (params : List (Name × Name)) (result : Option Name) (position : Nat) :
    header .define position (params.map declared ++ (result.map symbol).toList) =
      .ok (params, result) := by
  -- By induction on the parameters, each of which is a pair of names; the return type comes last.
  induction params generalizing position with
  | nil => cases result <;> rfl
  | cons param params ih => simp [declared, plain, header, ih (position + 1)]

/-- A definition is read back from its parts. -/
theorem definition_declaring (params : List (Name × Name)) (result : Option Name) {body : Expr}
    (sequence : body.operation? = some .sequence) :
    definition .define (declaring params result body) = .ok ⟨params, result, body⟩ := by
  have front := header_declaring params result 0
  -- The body is the last child, and everything in front of it is the header.
  simp only [definition, declaring, List.getLast?_concat, List.dropLast_concat, front, sequence]
  rfl

/-- The children of a definition pass its check. -/
theorem definition_defining (params : List (Name × ValueType)) (result : Option ValueType)
    (items : List Expr) :
    definition .define (defining params result items) = .ok {
      params := params.map fun parameter => (parameter.1, ⟨parameter.2.name⟩)
      returnType := result.map fun type => ⟨type.name⟩
      body := plain .sequence items } := by
  -- The types are written by their names, which is all that a definition sees of them.
  rw [← definition_declaring _ _ rfl, defining, declaring, List.map_map, Option.map_map]
  rfl

/-- A definition is clear if the items of its body are. -/
theorem clear_define (name : Option Name) (params : List (Name × ValueType))
    (result : Option ValueType) {items : List Expr} (body : (plain .sequence items).Clear) :
    (node .define name (defining params result items)).Clear := by
  -- The node is made of its parts, and no definition is a pair.
  refine ⟨⟨⟨by simp, fun _ => ⟨params, result, items, rfl⟩⟩, ?_⟩, by simp [operation?]⟩
  rw [allNodesIn_iff]
  intro child member
  -- The child is a parameter, the return type or the body.
  simp only [defining, List.mem_append, List.mem_map, Option.mem_toList, List.mem_singleton] at member
  rcases member with (⟨parameter, -, rfl⟩ | type) | rfl
  · exact tidy_pair (clear_symbol _) (clear_symbol _)
  · simp only [Option.map_eq_some_iff] at type
    obtain ⟨type, -, rfl⟩ := type
    trivial
  · exact body.1

end Scriptlet.Expr

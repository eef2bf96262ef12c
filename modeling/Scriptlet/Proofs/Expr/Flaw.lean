import Scriptlet.Machine.Eval
import Scriptlet.Proofs.Expr.Shape

/-!
What a checked expression may still be found to be out of shape for when it is evaluated.

There are two such flaws: pairs outside of selections, and types that nobody knows.
-/

namespace Scriptlet

/-- The names of the types in a definition: those of its parameters, and that of its results. -/
def Definition.types (parts : Definition) : List Name :=
  parts.params.map (·.2) ++ parts.returnType.toList

/-- Whether evaluation takes a node apart instead of evaluating its children as they are. -/
def Operation.takesApart : Operation → Bool
  | pair | define | select => true
  | _ => false

/-- Whether an error of shape is one that the check of shapes leaves to evaluation. -/
def ShapeError.Late (error : ShapeError) : Prop :=
  error = ⟨.pair, .strayPair⟩ ∨
    ∃ type, ValueType.ofName? type.text = none ∧ error = ⟨.define, .unknownType type⟩

namespace Expr

/-- What an expression may turn out to be out of shape for, in its parts that may be evaluated. -/
inductive Flaw : Expr → ShapeError → Prop where
  /-- A pair has no value. -/
  | strayPair {name : Option Name} {children : List Expr} :
      Flaw (node .pair name children) ⟨.pair, .strayPair⟩
  /-- A definition names a type that there is not. -/
  | unknownType {name : Option Name} {children : List Expr} {parts : Definition} {type : Name} :
      definition .define children = .ok parts → type ∈ parts.types →
        ValueType.ofName? type.text = none →
          Flaw (node .define name children) ⟨.define, .unknownType type⟩
  /-- The body of a function may be evaluated once the function is called. -/
  | body {name : Option Name} {children : List Expr} {parts : Definition} {error : ShapeError} :
      definition .define children = .ok parts → Flaw parts.body error →
        Flaw (node .define name children) error
  /-- The pair that is an arm of a selection is taken apart, so that only its children matter. -/
  | arm {name token : Option Name} {children branches : List Expr} {child : Expr}
      {error : ShapeError} : node .pair token branches ∈ children → child ∈ branches →
        Flaw child error → Flaw (node .select name children) error
  /-- Any other node has its children evaluated. -/
  | part {operation : Operation} {name : Option Name} {children : List Expr} {child : Expr}
      {error : ShapeError} : operation.takesApart = false → child ∈ children →
        Flaw child error → Flaw (node operation name children) error

/-- Every flaw is one of those that only evaluation finds. -/
theorem Flaw.late {expr : Expr} {error : ShapeError} (flaw : expr.Flaw error) : error.Late := by
  -- A flaw is passed on unchanged from a part, so that all come down to the two that start one.
  induction flaw with
  | strayPair => exact .inl rfl
  | unknownType shaped member unknown => exact .inr ⟨_, unknown, rfl⟩
  | body shaped inner ih => exact ih
  | arm member inside inner ih => exact ih
  | part whole member inner ih => exact ih

end Expr

namespace Evaluation

/-- A type that is not found is not known. -/
theorem resolveType_eq_error {type : Name} {error : EvalError}
    (failed : resolveType type = .error error) :
    ValueType.ofName? type.text = none ∧ error = .badShape ⟨.define, .unknownType type⟩ := by
  -- Either the type is found, or this is the failure.
  unfold resolveType at failed
  split at failed
  case h_1 => cases failed
  case h_2 unknown =>
    cases failed
    exact ⟨unknown, rfl⟩

/-- Parameters that do not get their types name one that is not known. -/
theorem resolveParams_eq_error {params : List (Name × Name)} {error : EvalError}
    (failed : resolveParams params = .error error) : ∃ type ∈ params.map (·.2),
      ValueType.ofName? type.text = none ∧ error = .badShape ⟨.define, .unknownType type⟩ := by
  -- By induction on the parameters, in their order.
  induction params with
  | nil => cases failed
  | cons param params ih =>
    -- Either the type of the first one is missing, or that of one behind it.
    rcases bind_eq_error.mp failed with missing | ⟨resolved, -, others⟩
    · exact ⟨param.2, by simp, resolveType_eq_error missing⟩
    · rcases bind_eq_error.mp others with missing | ⟨rest, -, none⟩
      · obtain ⟨type, member, unknown⟩ := ih missing
        exact ⟨type, List.mem_cons_of_mem _ member, unknown⟩
      · cases none

/-- Results that do not get their type name one that is not known. -/
theorem resolveReturn_eq_error {returnType : Option Name} {error : EvalError}
    (failed : resolveReturn returnType = .error error) : ∃ type ∈ returnType.toList,
      ValueType.ofName? type.text = none ∧ error = .badShape ⟨.define, .unknownType type⟩ := by
  -- Without a return type there is nothing to be found.
  cases returnType with
  | none => cases failed
  | some type => exact ⟨type, by simp, resolveType_eq_error (map_eq_error.mp failed)⟩

end Evaluation

end Scriptlet

import Scriptlet.Proofs.Expr.Flaw

/-!
What a definition makes of the names of types.

Main statement: the types of a definition are all found before there is a function, which then has
just these types; otherwise nothing has been done, and a type is told that is not known.
-/

namespace Scriptlet

/-! Types are resolved one after the other. -/

namespace Evaluation

/-- A name is resolved to the type that it stands for. -/
theorem resolveType_eq_ok_iff {name : Name} {type : ValueType} :
    resolveType name = .ok type ↔ ValueType.ofName? name.text = some type := by
  -- The name is looked up among those of types.
  unfold resolveType
  cases ValueType.ofName? name.text <;> simp

/-- Parameters are resolved if all their second names stand for types. -/
theorem resolveParams_eq_ok_iff {params : List (Name × Name)} {found : List (Name × ValueType)} :
    resolveParams params = .ok found ↔
      params.map (Prod.map id fun type => ValueType.ofName? type.text) =
        found.map (Prod.map id some) := by
  -- The types are found from the first parameter to the last, and stop at the first unknown one.
  induction params generalizing found with
  | nil => cases found <;> simp [resolveParams]
  | cons param params ih =>
    simp only [resolveParams, bind_eq_ok, resolveType_eq_ok_iff, ih, pure_eq_ok, Except.ok.injEq,
      List.map_cons]
    constructor
    · rintro ⟨type, known, rest, others, rfl⟩
      rw [List.map_cons, others, Prod.map, known]
      rfl
    · intro same
      obtain ⟨typed, rest, rfl, first, others⟩ := List.map_eq_cons_iff.mp same.symm
      simp only [Prod.map, id, Prod.mk.injEq] at first
      exact ⟨typed.2, first.2.symm, rest, others.symm, by rw [← first.1]⟩

/-- The type of the results is resolved if there is none, or if its name stands for it. -/
theorem resolveReturn_eq_ok_iff {name : Option Name} {found : Option ValueType} :
    resolveReturn name = .ok found ↔
      name.map (fun type => ValueType.ofName? type.text) = found.map some := by
  -- Without a name there is nothing to look up.
  cases name with
  | none => cases found <;> simp [resolveReturn]
  | some name =>
    simp only [resolveReturn, map_eq_ok, resolveType_eq_ok_iff, Option.map_some]
    cases found <;> simp

end Evaluation

namespace Definition

open Evaluation

/-- The parameters of a definition with their types, and the type of its results. -/
def resolve (parts : Definition) :
    Except EvalError (List (Name × ValueType) × Option ValueType) := do
  let params ← resolveParams parts.params
  return (params, ← resolveReturn parts.returnType)

variable {parts : Definition} {params : List (Name × ValueType)} {result : Option ValueType}

/-- A definition is resolved if all the names of types in it stand for types. -/
theorem resolve_eq_ok_iff : parts.resolve = .ok (params, result) ↔
    parts.params.map (Prod.map id fun type => ValueType.ofName? type.text) =
        params.map (Prod.map id some) ∧
      parts.returnType.map (fun type => ValueType.ofName? type.text) = result.map some := by
  simp only [resolve, bind_eq_ok, pure_eq_ok, Except.ok.injEq, Prod.mk.injEq,
    resolveParams_eq_ok_iff, resolveReturn_eq_ok_iff]
  -- What has been found for the parameters and for the results is told apart.
  constructor
  · rintro ⟨_, params, _, result, rfl, rfl⟩
    exact ⟨params, result⟩
  · rintro ⟨typed, declared⟩
    exact ⟨params, typed, result, declared, rfl, rfl⟩

/-- What is not resolved names a type that is not known. -/
theorem resolve_eq_error {error : EvalError} (failed : parts.resolve = .error error) :
    ∃ type ∈ parts.types,
      ValueType.ofName? type.text = none ∧ error = .badShape ⟨.define, .unknownType type⟩ := by
  -- The parameters are looked at in order, and the results behind them.
  rcases bind_eq_error.mp failed with params | ⟨found, -, rest⟩
  · obtain ⟨type, member, unknown⟩ := resolveParams_eq_error params
    exact ⟨type, List.mem_append_left _ member, unknown⟩
  · rcases bind_eq_error.mp rest with result | ⟨type, -, none⟩
    · obtain ⟨type, member, unknown⟩ := resolveReturn_eq_error result
      exact ⟨type, List.mem_append_right _ member, unknown⟩
    · cases none

/-- What is resolved names no type that is not known. -/
theorem known_of_resolve (resolved : parts.resolve = .ok (params, result)) :
    ∀ type ∈ parts.types, ValueType.ofName? type.text ≠ none := by
  obtain ⟨typed, declared⟩ := resolve_eq_ok_iff.mp resolved
  intro type member unknown
  rcases List.mem_append.mp member with member | member
  · -- Its place among the types that were found would be empty.
    obtain ⟨param, listed, rfl⟩ := List.mem_map.mp member
    have found : (param.1, ValueType.ofName? param.2.text) ∈ parts.params.map
        (Prod.map id fun type => ValueType.ofName? type.text) := List.mem_map_of_mem listed
    rw [typed, unknown] at found
    obtain ⟨other, -, same⟩ := List.mem_map.mp found
    cases (Prod.mk.inj same).2
  · rw [Option.mem_toList.mp member, Option.map_some, unknown] at declared
    cases result <;> cases declared

/-- Types are known by their own names. -/
theorem resolve_typed (params : List (Name × ValueType)) (result : Option ValueType)
    (body : Expr) : resolve ⟨params.map fun param => (param.1, ⟨param.2.name⟩),
      result.map fun type => ⟨type.name⟩, body⟩ = .ok (params, result) := by
  have known (type : ValueType) : ValueType.ofName? type.name = some type := by
    cases type <;> decide
  -- Every type is found by its name, so that nothing is left unknown.
  refine resolve_eq_ok_iff.mpr ⟨?_, ?_⟩
  · simp [Function.comp_def, Prod.map, known]
  · simp [Function.comp_def, known]

end Definition

/-! Definitions, once they are resolved. -/

namespace Evaluation

/-- Make a function with the given types, and bind it if it has a name. -/
def makeClosure (frame : Nat) (name : Option Name) (body : Expr)
    (types : List (Name × ValueType) × Option ValueType) : Evaluation Value := do
  let id ← nextDefinition
  let value := Value.function (.closure ⟨id, name, types.1, types.2, body, frame⟩)
  if let some name := name then bind frame name value
  return value

/-- A definition is resolved first, and then there is a function of it. -/
theorem evalDefine_eq {children : List Expr} {parts : Definition} (frame : Nat) (name : Option Name)
    (shaped : Expr.definition .define children = .ok parts) :
    evalDefine frame name children =
      ofExcept parts.resolve >>= makeClosure frame name parts.body := by
  have here : evalDefine frame name children = (do
      let params ← ofExcept (resolveParams parts.params)
      let result ← ofExcept (resolveReturn parts.returnType)
      makeClosure frame name parts.body (params, result)) := by
    rw [evalDefine, shaped]
    rfl
  -- Whatever is not known is told before anything is done.
  rw [here, Definition.resolve]
  cases resolveParams parts.params with
  | error error => rfl
  | ok params => cases resolveReturn parts.returnType <;> rfl

end Evaluation

end Scriptlet

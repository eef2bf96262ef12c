import Scriptlet.Operator
import Scriptlet.Proofs.Value.Match

/-! Operators make of matching operands one and the same value, or fail for the same reason. -/

namespace Scriptlet.Operator

open Value (Match MatchAll Faithful)

variable {functions : Function → Function → Prop}

/-- Arithmetic does not tell matching operands apart. -/
theorem arithmetic_match (operation : Operation) {x x' y y' : Value}
    (first : Match functions x x') (second : Match functions y y') :
    arithmetic operation x y = arithmetic operation x' y' := by
  -- Operands other than two integers or two texts are looked at as numbers, or by their types.
  have number := first.real?_eq
  have number' := second.real?_eq
  have type := first.type_eq
  have type' := second.type_eq
  unfold arithmetic onNumbers unfit
  rw [number, number', type, type']
  cases x <;> cases x' <;> simp only [Match] at first <;> cases y <;> cases y' <;>
    simp only [Match] at second <;> simp_all

/-- Comparisons do not tell matching operands apart. -/
theorem compareValues_match (operation : Operation) {x x' y y' : Value}
    (first : Match functions x x') (second : Match functions y y') :
    compareValues operation x y = compareValues operation x' y' := by
  -- As in arithmetic, an operator looks at numbers or at types.
  have number := first.real?_eq
  have number' := second.real?_eq
  have type := first.type_eq
  have type' := second.type_eq
  unfold compareValues unfit
  rw [number, number', type, type']
  cases x <;> cases x' <;> simp only [Match] at first <;> cases y <;> cases y' <;>
    simp only [Match] at second <;> simp_all

/-- Membership is the same in matching lists of matching values. -/
theorem isMember_match (faithful : Faithful functions) {x x' y y' : Value}
    (first : Match functions x x') (second : Match functions y y') :
    isMember x y = isMember x' y' := by
  -- Membership is asked of lists only, and a list matches nothing but lists.
  cases y <;> cases y' <;> simp only [Match] at second <;> simp only [isMember]
  case list.list items items' => rw [second.contains_eq faithful first]
  all_goals rfl

/-- An operator between matching operands has one and the same outcome. -/
theorem applyBinary_match (faithful : Faithful functions) (tolerance : Float)
    (operation : Operation) {x x' y y' : Value} (first : Match functions x x')
    (second : Match functions y y') :
    applyBinary tolerance operation x y = applyBinary tolerance operation x' y' := by
  -- Closeness is a matter of numbers, too.
  have close : compareClose tolerance x y = compareClose tolerance x' y' := by
    simp only [compareClose, unfit, first.real?_eq, second.real?_eq, first.type_eq, second.type_eq]
  cases operation <;>
    simp only [applyBinary, arithmetic_match _ first second, compareValues_match _ first second,
      isMember_match faithful first second, close]

/-- An operator in front of matching operands has one and the same outcome. -/
theorem applyUnary_match (operation : Operation) {x x' : Value} (same : Match functions x x') :
    applyUnary operation x = applyUnary operation x' := by
  -- Functions are refused for their type, and all other values match only themselves.
  cases x <;> cases x' <;> simp only [Match] at same <;> cases operation <;>
    simp_all [applyUnary, Value.type]

/-- Arithmetic gives numbers and texts. -/
theorem isComposite_of_arithmetic {operation : Operation} {x y result : Value}
    (computed : arithmetic operation x y = .ok result) : result.type.isComposite = false := by
  -- There are three ways to a value, from integers, from texts and from numbers.
  unfold arithmetic onNumbers unfit at computed
  split at computed
  · obtain ⟨found, -, rfl⟩ := map_eq_ok.mp computed
    rfl
  · split at computed
    · simp only [Except.ok.injEq] at computed
      subst result
      rfl
    · simp at computed
  · split at computed
    · obtain ⟨found, -, rfl⟩ := map_eq_ok.mp computed
      rfl
    · simp at computed

/-- Operators between operands give numbers, texts and truth values. -/
theorem isComposite_of_applyBinary {tolerance : Float} {operation : Operation} {x y result : Value}
    (computed : applyBinary tolerance operation x y = .ok result) :
    result.type.isComposite = false := by
  -- Each operator makes numbers, texts or truth values, or fails.
  unfold applyBinary misplaced at computed
  split at computed <;> first
    | exact isComposite_of_arithmetic computed
    | obtain ⟨found, -, rfl⟩ := map_eq_ok.mp computed
      rfl
    | simp at computed

/-- Operators in front of an operand give numbers and truth values. -/
theorem isComposite_of_applyUnary {operation : Operation} {x result : Value}
    (computed : applyUnary operation x = .ok result) : result.type.isComposite = false := by
  -- A sign and a negation make a number and a truth value.
  unfold applyUnary misplaced at computed
  split at computed <;> simp only [Except.ok.injEq, reduceCtorEq] at computed <;>
    · subst result
      rfl

/-- Between matching operands, an operator gives matching values or fails for the same reason. -/
theorem applyBinary_alike (faithful : Faithful functions) (tolerance : Float)
    (operation : Operation) {x x' y y' : Value} (first : Match functions x x')
    (second : Match functions y y') :
    Alike (Match functions) (applyBinary tolerance operation x y)
      (applyBinary tolerance operation x' y') := by
  -- There is one outcome, and its value matches itself for having no parts.
  rw [applyBinary_match faithful tolerance operation first second]
  exact .refl fun _ computed => .refl_of_not_isComposite (isComposite_of_applyBinary computed)

/-- In front of a matching operand, an operator gives a matching value or fails alike. -/
theorem applyUnary_alike (operation : Operation) {x x' : Value} (same : Match functions x x') :
    Alike (Match functions) (applyUnary operation x) (applyUnary operation x') := by
  rw [applyUnary_match operation same]
  exact .refl fun _ computed => .refl_of_not_isComposite (isComposite_of_applyUnary computed)

end Scriptlet.Operator

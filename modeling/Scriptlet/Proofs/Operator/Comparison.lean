import Scriptlet.Operator
import Scriptlet.Proofs.Value.Widening

/-!
How the comparisons of two values go together.

Main statements: two values are compared by one order that turns round when they change places, and
what the six comparisons say of them is what that order says.
-/

namespace Scriptlet.Operator

open Decimal

variable {x y : Float} {left right : Value}

/-! The orders of integers, texts and real numbers turn round when the operands change places. -/

/-- Integers are in the order of the numbers behind their bits. -/
theorem orderIntegers_eq (m n : Int64) : orderIntegers m n = compare m.toInt n.toInt := by
  -- To be the same and to be less are told by those numbers.
  have same : m = n ↔ m.toInt = n.toInt := Int64.toInt_inj.symm
  simp only [orderIntegers, beq_iff_eq, Int64.lt_iff_toInt_lt, same]
  rfl

/-- The order of integers turns round when they change places. -/
theorem orderIntegers_swap (m n : Int64) : orderIntegers n m = (orderIntegers m n).swap := by
  -- The order of the numbers behind the bits does.
  rw [orderIntegers_eq, orderIntegers_eq, Int.compare_swap]

/-- The order of texts turns round when they change places. -/
theorem orderTexts_swap (s t : String) : orderTexts t s = (orderTexts s t).swap := by
  unfold orderTexts
  -- One of the texts comes first, or they are the same.
  rcases lt_trichotomy s t with less | rfl | more
  · rw [if_pos less, if_neg less.asymm, if_neg (by simpa using less.ne')]
    rfl
  · simp
  · rw [if_pos more, if_neg more.asymm, if_neg (by simpa using more.ne')]
    rfl

/-- Real numbers are in the order of the exact numbers that they are. -/
theorem orderReals_eq (x y : Float) : orderReals x y = x.toModel.compare y.toModel := by
  -- The order asks for less, for equal and for greater, one after the other.
  unfold orderReals
  simp only [lt_iff_compare, beq_eq_compare, beq_iff_eq, compare_swap x y]
  rcases x.toModel.compare y.toModel with _ | (_ | _ | _) <;> rfl

/-- The order of real numbers turns round when they change places, if there is one. -/
theorem orderReals_swap (x y : Float) : orderReals y x = (orderReals x y).map .swap := by
  rw [orderReals_eq, orderReals_eq, compare_swap]

/-- Two real numbers have no order exactly if one of them is NaN. -/
theorem orderReals_eq_none_iff :
    orderReals x y = none ↔ x.isNaN = true ∨ y.isNaN = true := by
  rw [orderReals_eq, compare_eq_none_iff]

/-- Whether two values are compared by an order, which turns round when they change places. -/
structure Ordered (left right : Value) (order : Option Ordering) : Prop where
  /-- The order answers every comparison. -/
  forth (operation : Operation) : compareValues operation left right = holds operation order
  /-- The order of the values the other way round is this one turned round. -/
  back (operation : Operation) :
    compareValues operation right left = holds operation (order.map .swap)
  /-- Only NaN has no place in it. -/
  unordered : order = none ↔ left.isNaN = true ∨ right.isNaN = true
  /-- Truth values are not compared in this way. -/
  type : left.type ≠ .boolean

/-- Integers are compared by their order. -/
theorem ordered_integers (m n : Int64) :
    Ordered (.integer m) (.integer n) (some (orderIntegers m n)) where
  forth _ := rfl
  back operation := by
    rw [Option.map_some, ← orderIntegers_swap]
    rfl
  unordered := by simp [Value.isNaN]
  type := nofun

/-- Texts are compared by their order. -/
theorem ordered_texts (s t : String) :
    Ordered (.string s) (.string t) (some (orderTexts s t)) where
  forth _ := rfl
  back operation := by
    rw [Option.map_some, ← orderTexts_swap]
    rfl
  unordered := by simp [Value.isNaN]
  type := nofun

/-- Two numbers of which one at least is real are compared as real numbers. -/
theorem ordered_reals (found : left.real? = some x) (found' : right.real? = some y)
    (mixed : ¬(left.type = .integer ∧ right.type = .integer)) :
    Ordered left right (orderReals x y) where
  forth operation := by
    cases left <;> cases right <;> simp_all [compareValues, Value.real?, Value.type]
  back operation := by
    rw [← orderReals_swap]
    cases left <;> cases right <;> simp_all [compareValues, Value.real?, Value.type]
  unordered := by
    rw [orderReals_eq_none_iff, Value.isNaN_of_real? found, Value.isNaN_of_real? found']
  type := by
    rintro boolean
    cases left <;> cases found <;> cases boolean

/-- Two values have an order, or are truth values, or do not compare. -/
theorem compareValues_cases (left right : Value) :
    (∃ order, Ordered left right order) ∨
    (∃ b c, left = .boolean b ∧ right = .boolean c) ∨
    ((∀ operation, compareValues operation left right = unfit operation left right) ∧
      ¬(left.type = .boolean ∧ right.type = .boolean)) := by
  -- Numbers and texts are compared among each other, and truth values only for being the same.
  cases left <;> cases right
  case integer.integer m n => exact .inl ⟨_, ordered_integers m n⟩
  case string.string s t => exact .inl ⟨_, ordered_texts s t⟩
  case integer.real | real.integer | real.real =>
    exact .inl ⟨_, ordered_reals rfl rfl (by simp [Value.type])⟩
  case boolean.boolean b c => exact .inr (.inl ⟨b, c, rfl, rfl⟩)
  all_goals exact .inr (.inr ⟨fun _ => rfl, by simp [Value.type]⟩)

/-- What the comparisons of two values answer, by whether the first is less, the same or greater. -/
structure Verdicts (evaluate : Operation → Value → Value → Except EvalError Value)
    (left right : Value) (less same greater : Bool) : Prop where
  isLess : evaluate .less left right = .ok (.boolean less)
  isSame : evaluate .equal left right = .ok (.boolean same)
  isGreater : evaluate .greater left right = .ok (.boolean greater)
  isAtMost : evaluate .lessOrEqual left right = .ok (.boolean (less || same))
  isAtLeast : evaluate .greaterOrEqual left right = .ok (.boolean (greater || same))
  /-- The second is greater than the first if the first is less. -/
  turned : evaluate .greater right left = .ok (.boolean less)
  /-- The second is at least the first if the first is at most the second. -/
  turnedAtLeast : evaluate .greaterOrEqual right left = .ok (.boolean (less || same))
  /-- Without NaN exactly one of the three holds. -/
  one : left.isNaN = false → right.isNaN = false →
    (less, same, greater) ∈ [(true, false, false), (false, true, false), (false, false, true)]
  /-- Beside NaN none does, and only difference is left. -/
  unordered : left.isNaN = true ∨ right.isNaN = true → (less, same, greater) = (false, false, false)

/-- What the comparisons of two values have to do with each other. -/
structure Coherent (evaluate : Operation → Value → Value → Except EvalError Value)
    (left right : Value) : Prop where
  /-- Equality and difference fail together. -/
  fails : (∃ reason, evaluate .equal left right = .error reason) ↔
    ∃ reason, evaluate .notEqual left right = .error reason
  /-- Where they do not fail, one is the opposite of the other. -/
  opposite (value : Value) : evaluate .equal left right = .ok value →
    ∃ same : Bool, value = .boolean same ∧ evaluate .notEqual left right = .ok (.boolean !same)
  /-- What can be equal has an order, unless it is two truth values. -/
  succeeds (operation : Operation) :
    operation ∈ [.less, .greater, .lessOrEqual, .greaterOrEqual] →
      ((∃ value, evaluate operation left right = .ok value) ↔
        (∃ value, evaluate .equal left right = .ok value) ∧
          ¬(left.type = .boolean ∧ right.type = .boolean))
  /-- What has an order is in the same order for all comparisons. -/
  ordered : (∃ value, evaluate .less left right = .ok value) →
    ∃ less same greater, Verdicts evaluate left right less same greater

variable {order : Option Ordering}

/-- Values with an order are compared by it. -/
theorem Ordered.verdicts (ordered : Ordered left right order) (tolerance : Float) :
    Verdicts (applyBinary tolerance) left right (order == some .lt) (order == some .eq)
      (order == some .gt) where
  isLess := congrArg (Except.map Value.boolean) (ordered.forth .less)
  isSame := congrArg (Except.map Value.boolean) (ordered.forth .equal)
  isGreater := congrArg (Except.map Value.boolean) (ordered.forth .greater)
  isAtMost := congrArg (Except.map Value.boolean) (ordered.forth .lessOrEqual)
  isAtLeast := congrArg (Except.map Value.boolean) (ordered.forth .greaterOrEqual)
  turned := by
    rcases order with _ | (_ | _ | _) <;>
      exact congrArg (Except.map Value.boolean) (ordered.back .greater)
  turnedAtLeast := by
    rcases order with _ | (_ | _ | _) <;>
      exact congrArg (Except.map Value.boolean) (ordered.back .greaterOrEqual)
  one number number' := by
    rcases order with _ | (_ | _ | _)
    · have nan := ordered.unordered.mp rfl
      simp [number, number'] at nan
    all_goals decide
  unordered nan := by
    rw [ordered.unordered.mpr nan]
    decide

/-- Values with an order can be compared in every way. -/
theorem Ordered.coherent (ordered : Ordered left right order) (tolerance : Float) :
    Coherent (applyBinary tolerance) left right := by
  -- Two of the answers decide all that is asked here.
  have same := (ordered.verdicts tolerance).isSame
  have differ : applyBinary tolerance .notEqual left right =
      .ok (.boolean !(order == some .eq)) :=
    congrArg (Except.map Value.boolean) (ordered.forth .notEqual)
  constructor
  case fails => simp [same, differ]
  case opposite =>
    intro value equal
    rw [same] at equal
    exact ⟨_, (Except.ok.inj equal).symm, differ⟩
  case succeeds =>
    simp [applyBinary, ordered.forth, holds, Except.map, ordered.type]
  case ordered => exact fun _ => ⟨_, _, _, ordered.verdicts tolerance⟩

/-- Whatever two values are, their comparisons go together. -/
theorem comparisons_coherent (tolerance : Float) (left right : Value) :
    Coherent (applyBinary tolerance) left right := by
  -- There is an order, or two truth values, or nothing to compare.
  rcases compareValues_cases left right with
    ⟨order, ordered⟩ | ⟨b, c, rfl, rfl⟩ | ⟨unfits, apart⟩
  · exact ordered.coherent tolerance
  · -- Truth values are equal or not, and every other comparison of them fails.
    constructor <;>
      simp [applyBinary, compareValues, compareBooleans, Except.map, Value.type, bne]
  · -- All six comparisons fail.
    constructor <;> simp [applyBinary, unfits, unfit, Except.map]

end Scriptlet.Operator

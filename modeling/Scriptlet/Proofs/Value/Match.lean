import Scriptlet.Proofs.Outcome
import Scriptlet.Value.Basic

/-!
Values that are the same but for the functions in them.

Functions correspond by a relation that is given; all else about two matching values is equal.
-/

namespace Scriptlet

/-- Whether functions match: those of scripts by a relation, and others only themselves. -/
def Function.Match (closures : Closure → Closure → Prop) (natives : Function → Prop) :
    Function → Function → Prop
  | .closure left, .closure right => closures left right
  | .builtin left, .builtin right => left = right ∧ natives (.builtin left)
  | .host left, .host right => left = right ∧ natives (.host left)
  | _, _ => False

namespace Value

mutual

/-- The functions of scripts in a value. -/
def closures : Value → List Closure
  | list items => allClosures items
  | function (.closure closure) => [closure]
  | _ => []

/-- The functions of scripts in some values. -/
def allClosures : List Value → List Closure
  | [] => []
  | value :: rest => value.closures ++ allClosures rest

end

mutual

/-- Whether values match: the functions in them by a relation, and everything else only itself. -/
def Match (functions : Function → Function → Prop) : Value → Value → Prop
  | integer left, integer right => left = right
  | real left, real right => left = right
  | string left, string right => left = right
  | boolean left, boolean right => left = right
  | list left, list right => MatchAll functions left right
  | function left, function right => functions left right
  | _, _ => False

/-- Whether values match, each the one at its place. -/
def MatchAll (functions : Function → Function → Prop) : List Value → List Value → Prop
  | [], [] => True
  | left :: lefts, right :: rights => Match functions left right ∧ MatchAll functions lefts rights
  | _, _ => False

end

section Eq

variable {closures : Closure → Closure → Prop} {natives : Function → Prop}

mutual

/-- Matching values are the same if the functions of scripts in them match only themselves. -/
theorem Match.eq : (left right : Value) →
    (∀ closure ∈ left.closures, ∀ other, closures closure other → closure = other) →
      Match (Function.Match closures natives) left right → left = right
  | left, right, only, same => by
    -- Values of different kinds do not match.
    cases left <;> cases right <;> simp only [Match] at same
    case list.list lefts rights => rw [MatchAll.eq lefts rights only same]
    case function.function f g =>
      -- Only functions of scripts could match others than themselves.
      cases f <;> cases g <;> simp only [Function.Match] at same
      case closure.closure c d => rw [only c (by simp [Value.closures]) d same]
      all_goals rw [same.1]
    all_goals rw [same]

/-- Matching values in a row are the same if the functions of scripts in them are. -/
theorem MatchAll.eq : (lefts rights : List Value) →
    (∀ closure ∈ allClosures lefts, ∀ other, closures closure other → closure = other) →
      MatchAll (Function.Match closures natives) lefts rights → lefts = rights
  | [], rights, only, same => by cases rights <;> simp_all [MatchAll]
  | left :: lefts, [], only, same => by simp [MatchAll] at same
  | left :: lefts, right :: rights, only, same => by
    -- The functions of scripts in a row are those of the first value and those of the rest.
    simp only [allClosures, List.mem_append] at only
    rw [Match.eq left right (fun c member => only c (.inl member)) same.1,
      MatchAll.eq lefts rights (fun c member => only c (.inr member)) same.2]

end

end Eq

variable {functions : Function → Function → Prop}

/-- Matching values have the same type. -/
theorem Match.type_eq {left right : Value} (same : Match functions left right) :
    left.type = right.type := by
  -- Values of different kinds do not match.
  cases left <;> cases right <;> simp [Match, type] at same ⊢

/-- Matching values are the same truth value, or none. -/
theorem Match.boolean?_eq {left right : Value} (same : Match functions left right) :
    left.boolean? = right.boolean? := by
  -- Values of different kinds do not match, and of one kind only truth values have one.
  cases left <;> cases right <;> simp_all [Match, boolean?]

/-- Matching values are the same whole number, or none. -/
theorem Match.integer?_eq {left right : Value} (same : Match functions left right) :
    left.integer? = right.integer? := by
  cases left <;> cases right <;> simp_all [Match, integer?]

/-- Matching values are the same real number, or none. -/
theorem Match.real?_eq {left right : Value} (same : Match functions left right) :
    left.real? = right.real? := by
  cases left <;> cases right <;> simp_all [Match, real?]

/-- Matching values are the same text, or none. -/
theorem Match.string?_eq {left right : Value} (same : Match functions left right) :
    left.string? = right.string? := by
  cases left <;> cases right <;> simp_all [Match, string?]

/-- Matching values have matching items, or none. -/
theorem Match.list?_rel {left right : Value} (same : Match functions left right) :
    Option.Rel (MatchAll functions) left.list? right.list? := by
  -- Of values that match, either both are lists or neither is.
  cases left <;> cases right <;> simp only [Match] at same
  case list.list => exact .some same
  all_goals exact .none

/-- Values without parts match only themselves, whatever functions do. -/
theorem Match.refl_of_not_isComposite {value : Value} (plain : value.type.isComposite = false) :
    Match functions value value := by
  -- Only lists and functions have parts.
  cases value <;> simp_all [type, ValueType.isComposite, Match]

/-- Widening keeps values matching. -/
theorem Match.converted {left right : Value} (same : Match functions left right)
    (required : ValueType) :
    Match functions (left.converted required) (right.converted required) := by
  -- Only integers are widened, and these match themselves alone.
  cases left <;> cases right <;> cases required <;> simp_all [Match, Value.converted]

/-- As many values match as there are. -/
theorem MatchAll.length_eq {lefts rights : List Value} (same : MatchAll functions lefts rights) :
    lefts.length = rights.length := by
  -- Lists of different lengths do not match, which rules out the mixed cases.
  induction lefts generalizing rights with
  | nil => cases rights <;> simp_all [MatchAll]
  | cons left lefts ih =>
    cases rights with
    | nil => simp [MatchAll] at same
    | cons right rights => simp [ih same.2]

/-- Matching values in a row with others stay matching. -/
theorem MatchAll.append {lefts rights lefts' rights' : List Value}
    (front : MatchAll functions lefts rights) (back : MatchAll functions lefts' rights') :
    MatchAll functions (lefts ++ lefts') (rights ++ rights') := by
  -- By induction on the front of the first list, which the other front matches.
  induction lefts generalizing rights with
  | nil => cases rights <;> simp_all [MatchAll]
  | cons left lefts ih =>
    cases rights with
    | nil => simp [MatchAll] at front
    | cons right rights => exact ⟨front.1, ih front.2⟩

/-- At every place there are matching values, or none. -/
theorem MatchAll.getElem? {lefts rights : List Value} (same : MatchAll functions lefts rights)
    (place : Nat) : Option.Rel (Match functions) lefts[place]? rights[place]? := by
  -- By induction on the first list, with the place in what is left of it.
  induction lefts generalizing rights place with
  | nil => cases rights <;> simp_all [MatchAll]
  | cons left lefts ih =>
    cases rights with
    | nil => simp [MatchAll] at same
    | cons right rights =>
      -- The first place has the first values; any other is a place of the rest.
      cases place with
      | zero => simpa using Option.Rel.some same.1
      | succ place => simpa using ih same.2 place

mutual

/-- If every function matches itself, so does every value. -/
theorem Match.refl (own : ∀ f, functions f f) : (value : Value) → Match functions value value
  | integer _ | real _ | string _ | boolean _ => rfl
  | list items => MatchAll.refl own items
  | function f => own f

/-- If every function matches itself, so do all values in a row. -/
theorem MatchAll.refl (own : ∀ f, functions f f) : (values : List Value) →
    MatchAll functions values values
  | [] => trivial
  | value :: rest => ⟨Match.refl own value, MatchAll.refl own rest⟩

end

section Fits

/-- Whether all functions of scripts in a value are fit. -/
def Fits (fit : Closure → Prop) (value : Value) : Prop :=
  ∀ closure ∈ value.closures, fit closure

/-- Whether all functions of scripts in some values are fit. -/
def AllFit (fit : Closure → Prop) (values : List Value) : Prop :=
  ∀ closure ∈ allClosures values, fit closure

/-- The same function, which is fit if a script has defined it. -/
def sameFit (fit : Closure → Prop) : Function → Function → Prop :=
  Function.Match (fun left right => left = right ∧ fit left) fun _ => True

variable {fit : Closure → Prop}

/-- Values in a row are fit exactly when each of them is. -/
theorem allFit_cons {value : Value} {rest : List Value} :
    AllFit fit (value :: rest) ↔ Fits fit value ∧ AllFit fit rest := by
  -- The functions of the row are those of the first value and those of the others.
  simp only [AllFit, Fits, allClosures, List.mem_append, or_imp, forall_and]

/-- Fit functions match exactly themselves. -/
theorem sameFit_iff (f g : Function) : sameFit fit f g ↔ f = g ∧ Fits fit (function f) := by
  -- Two functions match where they are the same; those of scripts have to be fit as well.
  cases f <;> cases g <;> simp [sameFit, Function.Match, Fits, closures]

mutual

/-- Fit values match exactly themselves. -/
theorem match_sameFit_iff : (left right : Value) →
    (Match (sameFit fit) left right ↔ left = right ∧ Fits fit left)
  | list items, right => by
    cases right
    case list others =>
      have all := matchAll_sameFit_iff items others
      simp [Match, all, Fits, AllFit, closures]
    all_goals simp [Match]
  | function f, right => by
    cases right
    case function g => simp [Match, sameFit_iff]
    all_goals simp [Match]
  | integer _, right | real _, right | string _, right | boolean _, right => by
    cases right <;> simp [Match, Fits, closures]

/-- Fit values in a row match exactly themselves. -/
theorem matchAll_sameFit_iff : (lefts rights : List Value) →
    (MatchAll (sameFit fit) lefts rights ↔ lefts = rights ∧ AllFit fit lefts)
  | [], rights => by cases rights <;> simp [MatchAll, AllFit, allClosures]
  | left :: lefts, [] => by simp [MatchAll]
  | left :: lefts, right :: rights => by
    -- A row is compared item by item.
    rw [MatchAll, match_sameFit_iff left right, matchAll_sameFit_iff lefts rights, allFit_cons,
      List.cons.injEq]
    exact and_and_and_comm

end

/-- Values without parts are fit, whatever that means for functions. -/
theorem fits_of_not_isComposite {value : Value} (plain : value.type.isComposite = false) :
    Fits fit value :=
  ((match_sameFit_iff value value).mp (.refl_of_not_isComposite plain)).2

/-- An outcome that is alike on both sides yields fit values of fit ones. -/
theorem fits_of_alike {ε : Type} {outcome : Except ε Value} {value : Value}
    (alike : Alike (Match (sameFit fit)) outcome outcome) (yielded : outcome = .ok value) :
    Fits fit value := by
  -- The value matches itself by functions that are fit.
  subst yielded
  exact ((match_sameFit_iff value value).mp alike).2

end Fits

/-- Whether matching functions are the same as others exactly where their counterparts are. -/
def Faithful (functions : Function → Function → Prop) : Prop :=
  ∀ f f' g g', functions f f' → functions g g' → (f = g ↔ f' = g')

mutual

/-- Matching values are the same as others exactly where their counterparts are. -/
theorem Match.eq_iff (faithful : Faithful functions) : (left right other other' : Value) →
    Match functions left right → Match functions other other' → (left = other ↔ right = other')
  | left, right, other, other', same, same' => by
    -- Values of different kinds are different on both sides.
    cases left <;> cases right <;> simp only [Match] at same <;>
      cases other <;> cases other' <;> simp only [Match] at same' <;>
      simp only [reduceCtorEq, integer.injEq, real.injEq, string.injEq, boolean.injEq, list.injEq,
        function.injEq]
    case list.list.list.list lefts rights others others' =>
      exact MatchAll.eq_iff faithful lefts rights others others' same same'
    case function.function.function.function f f' g g' => exact faithful f f' g g' same same'
    all_goals rw [same, same']

/-- Values in a row are the same as others exactly where their counterparts are. -/
theorem MatchAll.eq_iff (faithful : Faithful functions) :
    (lefts rights others others' : List Value) → MatchAll functions lefts rights →
      MatchAll functions others others' → (lefts = others ↔ rights = others')
  | [], rights, others, others', same, same' => by
    -- A row without values is the same only as another one without values.
    cases rights <;> cases others <;> cases others' <;> simp_all [MatchAll]
  | left :: lefts, [], others, others', same, same' => by simp [MatchAll] at same
  | left :: lefts, right :: rights, others, others', same, same' => by
    cases others <;> cases others' <;> simp only [MatchAll] at same'
    · simp
    · simp only [List.cons.injEq]
      exact and_congr (Match.eq_iff faithful left right _ _ same.1 same'.1)
        (MatchAll.eq_iff faithful lefts rights _ _ same.2 same'.2)

end

/-- A list holds a value exactly where its counterpart holds the matching one. -/
theorem MatchAll.contains_eq (faithful : Faithful functions) {lefts rights : List Value}
    {left right : Value} (same : MatchAll functions lefts rights)
    (item : Match functions left right) : lefts.contains left = rights.contains right := by
  -- By induction on the list, item by item.
  induction lefts generalizing rights with
  | nil => cases rights <;> simp_all [MatchAll]
  | cons first lefts ih =>
    cases rights with
    | nil => simp [MatchAll] at same
    | cons first' rights =>
      -- Whether the first item is the value looked for is the same on both sides.
      have heads : (left == first) = (right == first') := by
        rw [Bool.eq_iff_iff, beq_iff_eq, beq_iff_eq]
        exact Match.eq_iff faithful left right first first' item same.1
      rw [List.contains_cons, List.contains_cons, heads, ih same.2]

end Value

end Scriptlet

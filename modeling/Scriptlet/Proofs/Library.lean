import Scriptlet.Library
import Scriptlet.Proofs.Value.Match

/-! Built-in functions make matching values of matching arguments, or fail for the same reason. -/

namespace Scriptlet

/-- The library binds no functions of scripts. -/
theorem closures_of_library : ∀ entry ∈ library, entry.2.closures = [] := by
  -- Two of the entries are numbers, and all others are functions that are built in.
  intro entry member
  simp only [library, List.mem_cons, List.mem_map] at member
  rcases member with rfl | rfl | ⟨builtin, -, rfl⟩ <;> rfl

namespace Builtin

open Value (Match MatchAll)

variable {functions : Function → Function → Prop} {arguments arguments' : List Value}

/-- Arguments that are read as related things are related, or refused for the same reason. -/
theorem argument_alike {α : Type} {related : α → α → Prop} {read : Value → Option α}
    (reads : ∀ left right, Match functions left right →
      Option.Rel related (read left) (read right))
    (builtin : Builtin) (required : ValueType) (same : MatchAll functions arguments arguments')
    (position : Nat) :
    Alike related (builtin.argument required read arguments position)
      (builtin.argument required read arguments' position) := by
  unfold argument
  -- Arguments may be missing, of the wrong type, or readable, on both sides alike.
  rcases rel_cases (same.getElem? position) with
    ⟨missing, missing'⟩ | ⟨left, right, found, found', matched⟩
  · simp only [missing, missing', Option.bind_none]
    rfl
  · simp only [found, found', Option.bind_some]
    rcases rel_cases (reads left right matched) with
      ⟨unread, unread'⟩ | ⟨value, value', known, known', equal⟩
    · simp only [unread, unread']
      rfl
    · simp only [known, known']
      exact equal

/-- What is read in the same way from both sides is related by being equal. -/
theorem rel_of_eq {α : Type} {left right : Option α} (same : left = right) :
    Option.Rel Eq left right := by
  -- What is read is one and the same thing, or nothing on either side.
  subst right
  cases left with
  | none => exact .none
  | some value => exact .some rfl

/-- Lists among matching arguments match. -/
theorem listArgument_alike (builtin : Builtin) (same : MatchAll functions arguments arguments')
    (position : Nat) :
    Alike (MatchAll functions) (builtin.listArgument arguments position)
      (builtin.listArgument arguments' position) :=
  -- Lists match item by item.
  argument_alike (fun _ _ => Match.list?_rel) builtin .list same position

/-- Whole numbers among matching arguments are equal. -/
theorem integerArgument_alike (builtin : Builtin) (same : MatchAll functions arguments arguments')
    (position : Nat) :
    Alike Eq (builtin.integerArgument arguments position)
      (builtin.integerArgument arguments' position) :=
  -- A whole number matches no other one.
  argument_alike (fun _ _ item => rel_of_eq item.integer?_eq) builtin .integer same position

/-- Texts among matching arguments are equal. -/
theorem stringArgument_alike (builtin : Builtin) (same : MatchAll functions arguments arguments')
    (position : Nat) :
    Alike Eq (builtin.stringArgument arguments position)
      (builtin.stringArgument arguments' position) :=
  -- A text matches no other one.
  argument_alike (fun _ _ item => rel_of_eq item.string?_eq) builtin .string same position

/-- A function of one number has one and the same outcome on matching arguments. -/
theorem onReal_alike (builtin : Builtin) (compute : Float → Float)
    (same : MatchAll functions arguments arguments') :
    Alike (Match functions) (builtin.onReal compute arguments)
      (builtin.onReal compute arguments') := by
  have number : Alike Eq (builtin.realArgument arguments 0) (builtin.realArgument arguments' 0) :=
    -- The number that is computed with is the same on both sides.
    argument_alike (fun _ _ item => rel_of_eq item.real?_eq) builtin .real same 0
  refine number.bind fun x x' equal => ?_
  subst x'
  rfl

/-- Matching lists have matching first items, or neither has one. -/
theorem head_match {items items' : List Value} (same : MatchAll functions items items') :
    Match functions (items.head?.getD .emptyList) (items'.head?.getD .emptyList) := by
  -- The empty list stands in for the first item where there is none.
  cases items <;> cases items' <;> simp_all [MatchAll, Value.emptyList, Match]

/-- Matching lists match behind their first items. -/
theorem tail_match {items items' : List Value} (same : MatchAll functions items items') :
    MatchAll functions items.tail items'.tail := by
  -- Behind the first items there is what matched before, or nothing.
  cases items <;> cases items' <;> simp_all [MatchAll]

/-- Matching lists have matching items at every place, or refuse it for the same reason. -/
theorem itemOf_alike {items items' : List Value} (same : MatchAll functions items items')
    (index : Int64) : Alike (Match functions) (itemOf items index) (itemOf items' index) := by
  -- Matching lists are empty together.
  have empty : items.isEmpty = items'.isEmpty := by
    rw [Bool.eq_iff_iff, List.isEmpty_iff_length_eq_zero, List.isEmpty_iff_length_eq_zero,
      same.length_eq]
  unfold itemOf
  -- All that failures tell of the lists is their length.
  rw [empty, same.length_eq]
  split
  · trivial
  · -- Neither list has an item at the place, or both have one and the two match.
    by_cases negative : index < 0
    · simp only [if_pos negative]
      rfl
    · simp only [if_neg negative]
      rcases rel_cases (same.getElem? index.toInt.toNat) with
        ⟨missing, missing'⟩ | ⟨left, right, found, found', matched⟩
      · simp only [missing, missing']
        rfl
      · simp only [found, found']
        exact matched

/-- Matching values have one and the same text, or have none for the same reason. -/
theorem textOf_alike (places : Nat) {left right : Value} (same : Match functions left right) :
    Alike (Match functions) (textOf places left) (textOf places right) := by
  -- Values that have a text hold no functions; the others are refused by their types.
  have type := same.type_eq
  cases left <;> cases right <;> simp only [Match] at same <;> try cases same
  case real.real x =>
    simp only [textOf, Value.toText]
    split <;> rfl
  all_goals simp_all [textOf, Value.toText, Alike, Match]

/-- A built-in function makes matching values of matching arguments. -/
theorem apply_alike (places : Nat) (builtin : Builtin)
    (same : MatchAll functions arguments arguments') :
    Alike (Match functions) (builtin.apply places arguments)
      (builtin.apply places arguments') := by
  -- Each function reads its arguments first, and then looks at no more than what they share.
  cases builtin with
  | length =>
    -- All that is told of a list is how many items it has.
    refine (listArgument_alike length same 0).bind fun items items' matched => ?_
    rw [lengthOf, lengthOf, matched.length_eq]
    split <;> rfl
  | first => exact (listArgument_alike first same 0).bind fun _ _ matched => head_match matched
  | rest => exact (listArgument_alike rest same 0).bind fun _ _ matched => tail_match matched
  | item =>
    -- The place is the same on both sides, so that the same items are looked up.
    refine (listArgument_alike item same 0).bind fun items items' matched => ?_
    refine (integerArgument_alike item same 1).bind fun index index' equal => ?_
    subst index'
    exact itemOf_alike matched index
  | concat =>
    refine (listArgument_alike concat same 0).bind fun front front' matched => ?_
    exact (listArgument_alike concat same 1).bind fun _ _ matched' => matched.append matched'
  | append =>
    -- What is appended on both sides matches, or it is missing on both.
    refine (listArgument_alike append same 0).bind fun items items' matched => ?_
    rcases rel_cases (same.getElem? 1) with
      ⟨missing, missing'⟩ | ⟨left, right, found, found', added⟩
    · simp only [missing, missing']
      rfl
    · simp only [found, found']
      exact matched.append ⟨added, trivial⟩
  | character =>
    -- One and the same code is looked at on both sides.
    refine (integerArgument_alike character same 0).bind fun code code' equal => ?_
    subst code'
    unfold characterOf
    split
    · rfl
    · simp only
      split <;> rfl
  | codePoint =>
    -- One and the same text is looked at on both sides.
    refine (stringArgument_alike codePoint same 0).bind fun text text' equal => ?_
    subst text'
    unfold codePointOf
    split <;> rfl
  | toText =>
    -- Both sides have a first argument or neither has.
    cases arguments <;> cases arguments' <;> simp only [MatchAll] at same
    · rfl
    · exact textOf_alike places same.1
  | toReal =>
    -- One and the same number is widened on both sides.
    refine (integerArgument_alike toReal same 0).bind fun value value' equal => ?_
    subst value'
    rfl
  | squareRoot => exact onReal_alike squareRoot Float.sqrt same
  | sine => exact onReal_alike sine Float.sin same
  | cosine => exact onReal_alike cosine Float.cos same
  | tangent => exact onReal_alike tangent Float.tan same
  | logarithm => exact onReal_alike logarithm Float.log same
  | exponential => exact onReal_alike exponential Float.exp same

end Builtin

end Scriptlet

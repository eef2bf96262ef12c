import Scriptlet.Proofs.Json.Reading
import Scriptlet.Tree.Exchange

/-!
Syntax trees and the texts that describe them.

Main statement: a tree is read back from its text exactly when the text nests no more deeply than
the reader goes, with nothing to be said against the text otherwise but its depth, and no two trees
have one text.
-/

namespace Scriptlet.Tree

mutual

/-- How deeply the text of a tree nests: an object for each node, and the list in it. -/
def nesting : Tree → Nat
  | terminal _ => 1
  | node _ children => 2 + deepest children

/-- How deeply the texts of some trees nest; where there are none, nothing does. -/
def deepest : List Tree → Nat
  | [] => 0
  | tree :: rest => max tree.nesting (deepest rest)

end

mutual

/-- The JSON value of a tree nests as the text of the tree is said to. -/
theorem nesting_toJson : (tree : Tree) → tree.toJson.nesting = tree.nesting
  | terminal text => rfl
  | node rule children => by
    -- Of the two members of the object, the name of the rule does not nest, and the list does.
    simp only [toJson, Json.nesting, Json.memberNesting, nesting, itemNesting_listToJson children]
    omega

/-- The JSON values of some trees nest as deeply as the deepest text of them. -/
theorem itemNesting_listToJson :
    (trees : List Tree) → Json.itemNesting (listToJson trees) = deepest trees
  | [] => rfl
  | tree :: rest => by
    -- The list is as deep as the deeper one of its first item and the rest.
    rw [listToJson, Json.itemNesting, deepest, nesting_toJson tree, itemNesting_listToJson rest]

end

mutual

/-- No number is in the JSON value of a tree. -/
theorem numberless_toJson : (tree : Tree) → tree.toJson.numberless = true
  | terminal text => rfl
  -- The rule is told by its name, and the children are numberless in their turn.
  | node rule children => by
    simp [toJson, Json.numberless, Json.membersNumberless, itemsNumberless_listToJson children]

/-- No number is in the JSON values of some trees. -/
theorem itemsNumberless_listToJson :
    (trees : List Tree) → Json.itemsNumberless (listToJson trees) = true
  | [] => rfl
  | tree :: rest => by
    -- The first item and the rest are numberless.
    rw [listToJson, Json.itemsNumberless, numberless_toJson tree, itemsNumberless_listToJson rest]
    rfl

end

mutual

/-- The JSON value of a tree describes that tree. -/
theorem ofJson?_toJson : (tree : Tree) → ofJson? tree.toJson = some tree
  | terminal text => rfl
  | node rule children => by
    -- The two members are found by their keys, and the rule by its name.
    simp [toJson, ofJson?, describe, childrenOfJson?, listOfJson?_listToJson children,
      Rule.ofJson?, Rule.ofName?_name, Members.node?]

/-- The JSON values of some trees describe those trees. -/
theorem listOfJson?_listToJson :
    (trees : List Tree) → listOfJson? (listToJson trees) = some trees
  | [] => rfl
  | tree :: rest => by
    -- Items are read one by one.
    rw [listToJson, listOfJson?, ofJson?_toJson tree, listOfJson?_listToJson rest]

end

/-- Trees are described by different JSON values. -/
theorem toJson_injective : Function.Injective toJson := by
  -- What the one value describes it describes once.
  intro left right same
  have found := congrArg ofJson? same
  rw [ofJson?_toJson, ofJson?_toJson] at found
  exact Option.some.inj found

/-- A tree whose text nests as deeply as the reader goes or less is read back from the text. -/
theorem ofText_toText_of_le {tree : Tree} (flat : tree.nesting ≤ nestingLimit) :
    ofText tree.toText = .ok tree := by
  -- Without numbers a text is read back as the value that it was written from.
  have read := Json.readValue_text (numberless_toJson tree) nestingLimit
  rw [Json.ReadBack, nesting_toJson, if_pos flat] at read
  rw [ofText, toText, read, ok_mapError, ok_bind]
  simp only [ofJson?_toJson]
  rfl

/-- A text that nests more deeply than the reader goes is not read, whatever tree it describes. -/
theorem ofText_toText_of_lt {tree : Tree} (deep : nestingLimit < tree.nesting) :
    ∃ left, ofText tree.toText = .error (.notJson ⟨.tooDeep, left⟩) := by
  -- The limit is reached before the value is.
  have read := Json.readValue_text (numberless_toJson tree) nestingLimit
  rw [Json.ReadBack, nesting_toJson, if_neg (Nat.not_le.mpr deep)] at read
  obtain ⟨left, stopped⟩ := read
  refine ⟨left, ?_⟩
  rw [ofText, toText, stopped, error_mapError, error_bind]

/-- A tree is read back from its text exactly when the text nests 127 levels deep or less; a deeper
one is rejected for its depth, and one text never describes two trees, however deep they are. -/
theorem exchange_round_trip :
    (∀ tree : Tree, ofText tree.toText = .ok tree ↔ tree.nesting ≤ 127) ∧
      (∀ tree : Tree, (∃ left, ofText tree.toText = .error (.notJson ⟨.tooDeep, left⟩)) ↔
        127 < tree.nesting) ∧
      ∀ left right : Tree, left.toText = right.toText ↔ left = right := by
  refine ⟨fun tree => ⟨fun read => ?_, ofText_toText_of_le⟩,
    fun tree => ⟨fun ⟨_, stopped⟩ => ?_, ofText_toText_of_lt⟩,
    fun left right => ⟨fun same => ?_, congrArg toText⟩⟩
  · -- What is read did not nest too deeply, for that would have been an error.
    refine Nat.le_of_not_lt fun deep => ?_
    obtain ⟨_, stopped⟩ := ofText_toText_of_lt deep
    exact nomatch read.symm.trans stopped
  · refine Nat.lt_of_not_le fun flat => ?_
    exact nomatch (ofText_toText_of_le flat).symm.trans stopped
  · -- However deep a tree is, some reader goes deeper, and finds one value in one text.
    exact toJson_injective
      (Json.text_injective (numberless_toJson left) (numberless_toJson right) same)

end Scriptlet.Tree

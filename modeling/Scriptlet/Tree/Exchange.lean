import Scriptlet.Json.Reader
import Scriptlet.Tree.Basic

/-!
The exchange of syntax trees as JSON.

A node is written as an object with its rule and its children, and a token as one with its text.
Reading allows other members beside these, and a node without children may leave them out.
-/

namespace Scriptlet

/-- The rule that a JSON value names: its name, or an object that holds null under its name. -/
def Rule.ofJson? : Json → Option Rule
  | .string text => ofName? text
  | .object [(name, .null)] => ofName? name
  | _ => none

namespace Tree

mutual

/-- A tree as a JSON value. -/
def toJson : Tree → Json
  | terminal text => .object [("text", .string text)]
  | node rule children =>
    .object [("rule", .string rule.name), ("children", .array (listToJson children))]

/-- Trees as JSON values. -/
def listToJson : List Tree → List Json
  | [] => []
  | tree :: rest => tree.toJson :: listToJson rest

end

/-- What an object says about a tree: every member of a name that counts, read or unreadable. -/
structure Members where
  /-- The rules. -/
  rules : List (Option Rule)
  /-- The lists of children. -/
  children : List (Option (List Tree))
  /-- The texts. -/
  texts : List (Option String)

/-- The node that an object describes by one rule and at most one list of children. -/
def Members.node? (members : Members) : Option Tree :=
  match members.rules, members.children with
  | [some rule], [] => some (node rule [])
  | [some rule], [some children] => some (node rule children)
  | _, _ => none

/-- The token that an object describes by one text. -/
def Members.terminal? (members : Members) : Option Tree :=
  match members.texts with
  | [some text] => some (terminal text)
  | _ => none

/-- The text that a JSON value is. -/
def textOfJson? : Json → Option String
  | .string text => some text
  | _ => none

mutual

/-- The tree that a JSON value describes; what describes both a node and a token is a node. -/
def ofJson? : Json → Option Tree
  | .object members =>
    let described := describe members
    described.node? <|> described.terminal?
  | _ => none

/-- The trees that the items of a JSON value describe. -/
def childrenOfJson? : Json → Option (List Tree)
  | .array items => listOfJson? items
  | _ => none

/-- The trees that JSON values describe, if each describes one. -/
def listOfJson? : List Json → Option (List Tree)
  | [] => some []
  | item :: rest =>
    match ofJson? item with
    | none => none
    | some tree =>
      match listOfJson? rest with
      | none => none
      | some trees => some (tree :: trees)

/-- What the members of an object say about a tree. -/
def describe : List (String × Json) → Members
  | [] => ⟨[], [], []⟩
  | (name, value) :: rest =>
    let said := describe rest
    if name == "rule" then { said with rules := Rule.ofJson? value :: said.rules }
    else if name == "children" then
      { said with children := childrenOfJson? value :: said.children }
    else if name == "text" then { said with texts := textOfJson? value :: said.texts }
    else said

end

/-- How deeply the lists and objects of a tree file may nest. -/
def nestingLimit : Nat :=
  127

/-- Why a text is no tree file. -/
inductive FileFault where
  /-- The text is not JSON, or nests too deeply. -/
  | notJson (stop : Json.Stop)
  /-- The value describes no tree. -/
  | notTree
  deriving Repr, DecidableEq

/-- The fault of a text in words. -/
def FileFault.message (text : String) : FileFault → String
  | notJson stop => "invalid syntax tree: " ++ stop.message text
  | notTree => "invalid syntax tree: data did not match any variant of untagged enum Cst"

/-- The tree that a text describes; what follows the value is looked at last. -/
def ofText (text : String) : Except FileFault Tree := do
  let (value, rest) ← (Json.readValue nestingLimit text.toList).mapError .notJson
  match ofJson? value with
  | none => throw .notTree
  | some tree =>
    (Json.readEnd rest).mapError .notJson
    return tree

/-- The text that describes a tree. -/
def toText (tree : Tree) : String :=
  tree.toJson.text

end Tree

end Scriptlet

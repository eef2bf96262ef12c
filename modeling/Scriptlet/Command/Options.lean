import Scriptlet.Build.Builder
import Scriptlet.Machine.World
import Scriptlet.Value.Exchange

/-! Command-line arguments: flags, bindings and the path of a tree file. -/

namespace Scriptlet.Command

/-- What is wrong with the arguments of a command. -/
inductive UsageFault where
  /-- No builder has the name. -/
  | unknownBuilder (word : String)
  /-- The number of places is none. -/
  | badPlaces (text : String)
  /-- The tolerance is no finite number, or is less than zero. -/
  | badTolerance (text : String)
  /-- The limit of calls is no number. -/
  | badDepth (text : String)
  /-- The decimal separator is not one character. -/
  | badSeparator (text : String)
  /-- No flag has the name. -/
  | unknownOption (text : String)
  /-- There is a second path. -/
  | strayArgument (text : String)
  /-- There is no path. -/
  | pathMissing
  /-- A binding has no sign between name and value. -/
  | bindingUnsplit (text : String)
  /-- A binding has a blank name. -/
  | bindingUnnamed (text : String)
  deriving Repr, DecidableEq

/-- The fault in words. -/
def UsageFault.message : UsageFault → String
  | unknownBuilder word => "unknown builder \x60" ++ word ++ "\x60 (expected listener or visitor)"
  | badPlaces text => "invalid precision '" ++ text ++ "'"
  | badTolerance text => "invalid tolerance '" ++ text ++ "'"
  | badDepth text => "invalid call depth '" ++ text ++ "'"
  | badSeparator text => "decimal separator must be one character, got '" ++ text ++ "'"
  | unknownOption text => "unknown option '" ++ text ++ "'"
  | strayArgument text => "unexpected argument '" ++ text ++ "'"
  | pathMissing => "missing tree file path"
  | bindingUnsplit text => "binding '" ++ text ++ "' is not of the form NAME=VALUE"
  | bindingUnnamed text => "binding '" ++ text ++ "' has no name"

/-- A name bound to a value of the host before a script is evaluated. -/
structure Binding where
  /-- The name, as it is spelled. -/
  name : String
  /-- The type of the value. -/
  type : ValueType
  /-- The value. -/
  value : HostValue
  deriving DecidableEq

/-- What is asked of a run. -/
structure RunOptions where
  /-- The path of the tree file. -/
  path : String
  /-- How the expression is built. -/
  builder : Builder
  /-- The settings of the interpreter. -/
  settings : Settings
  /-- The decimal separator. -/
  separator : Char
  /-- The bindings, in the order in which they are given. -/
  bindings : List Binding
  /-- Whether the report is written as JSON. -/
  json : Bool
  deriving DecidableEq

/-- What is asked of showing an expression. -/
structure ShowOptions where
  /-- The path of the tree file. -/
  path : String
  /-- How the expression is built. -/
  builder : Builder
  deriving DecidableEq

/-! The values of flags. -/

/-- The builder of a name, in letters of either case. -/
def readBuilder (text : String) : Except UsageFault Builder :=
  let word := Text.lowerAscii text
  match Builder.ofName? word with
  | some builder => .ok builder
  | none => .error (.unknownBuilder word)

/-- A number of decimal places. -/
def readPlaces (text : String) : Except UsageFault Nat :=
  (Decimal.readCount text.toList).mapError fun _ => .badPlaces text

/-- A tolerance. -/
def readTolerance (text : String) : Except UsageFault Float :=
  match Decimal.readPlain? text.toList with
  | some x => if x.isFinite && 0.0 ≤ x then .ok x else .error (.badTolerance text)
  | none => .error (.badTolerance text)

/-- A limit of the calls under way. -/
def readDepth (text : String) : Except UsageFault Nat :=
  (Decimal.readCount text.toList).mapError fun _ => .badDepth text

/-- A decimal separator. -/
def readSeparator (text : String) : Except UsageFault Char :=
  match text.toList with
  | [c] => .ok c
  | _ => .error (.badSeparator text)

/-! Bindings. -/

/-- The type and the value that a text stands for: the first kind of constant that it spells. -/
def readConstant (separator : Char) (text : String) : ValueType × HostValue :=
  match readInteger text with
  | .ok n => (.integer, .integer n)
  | .error _ =>
    match readReal separator text with
    | .ok x => (.real, .real x)
    | .error _ =>
      match truthOf? (Text.uppercase (Text.trim text)) with
      | some truth => (.boolean, .boolean truth)
      | none => (.string, .string (unquoted text))

/-- Read a binding: a name, the first equals sign, and the text of a constant. -/
def readBinding (separator : Char) (text : String) : Except UsageFault Binding :=
  let isSign : Char → Bool := (· == '=')
  match text.toList.dropWhile fun c => !isSign c with
  | [] => .error (.bindingUnsplit text)
  | _ :: constant =>
    match Text.trimChars (text.toList.takeWhile fun c => !isSign c) with
    | [] => .error (.bindingUnnamed text)
    | name =>
      let (type, value) := readConstant separator (String.ofList constant)
      .ok ⟨String.ofList name, type, value⟩

/-! Arguments. -/

/-- An argument, told by how it starts. -/
inductive Argument where
  /-- How the expression is built. -/
  | builder (text : String)
  /-- How many decimal places real numbers have as text. -/
  | places (text : String)
  /-- The tolerance of approximate equality. -/
  | tolerance (text : String)
  /-- The limit of the calls under way. -/
  | depth (text : String)
  /-- The decimal separator. -/
  | separator (text : String)
  /-- A binding. -/
  | binding (text : String)
  /-- The library is not to be there. -/
  | noIntrinsics
  /-- The report is to be written as JSON. -/
  | json
  /-- A flag that does not exist. -/
  | unknown (text : String)
  /-- Anything else. -/
  | plain (text : String)
  deriving Repr, DecidableEq

/-- What follows the characters of a word, if a text starts with them. -/
def dropWord? : (word text : List Char) → Option (List Char)
  | [], text => some text
  | _ :: _, [] => none
  | w :: word, c :: text => if w == c then dropWord? word text else none

/-- The flags with a value: how each starts, and what the rest of it stands for. -/
def valueFlags : List (String × (String → Argument)) :=
  [("--builder=", .builder), ("--precision=", .places), ("--tolerance=", .tolerance),
   ("--max-depth=", .depth), ("--decimal-separator=", .separator), ("--bind=", .binding)]

/-- The flag with a value that a text is. -/
def valueFlag? (text : String) : Option Argument :=
  valueFlags.findSome? fun (word, make) =>
    (dropWord? word.toList text.toList).map fun rest => make (String.ofList rest)

/-- What an argument of a run asks for. -/
def Argument.ofText (text : String) : Argument :=
  match valueFlag? text with
  | some flag => flag
  | none =>
    if text == "--no-intrinsics" then noIntrinsics
    else if text == "--json" then json
    else if text.toList.head? == some '-' then unknown text
    else plain text

/-- What has been asked so far; bindings wait until the separator is known. -/
structure Draft where
  /-- The path of the tree file. -/
  path : Option String := none
  /-- How the expression is built. -/
  builder : Builder := .visitor
  /-- The settings of the interpreter. -/
  settings : Settings := {}
  /-- The decimal separator. -/
  separator : Char := '.'
  /-- The texts of the bindings, in order. -/
  bindings : List String := []
  /-- Whether the report is written as JSON. -/
  json : Bool := false
  deriving DecidableEq

/-- Take up an argument. -/
def Draft.add (draft : Draft) : Argument → Except UsageFault Draft
  | .builder text => do return { draft with builder := ← readBuilder text }
  | .places text => do
    return { draft with settings := { draft.settings with places := ← readPlaces text } }
  | .tolerance text => do
    return { draft with settings := { draft.settings with tolerance := ← readTolerance text } }
  | .depth text => do
    return { draft with settings := { draft.settings with maxDepth := some (← readDepth text) } }
  | .separator text => do return { draft with separator := ← readSeparator text }
  | .binding text => .ok { draft with bindings := draft.bindings ++ [text] }
  | .noIntrinsics => .ok { draft with settings := { draft.settings with intrinsics := false } }
  | .json => .ok { draft with json := true }
  | .unknown text => .error (.unknownOption text)
  | .plain text =>
    match draft.path with
    | none => .ok { draft with path := some text }
    | some _ => .error (.strayArgument text)

/-- Read bindings, in order. -/
def readBindings (separator : Char) : List String → Except UsageFault (List Binding)
  | [] => .ok []
  | text :: rest => do
    let binding ← readBinding separator text
    return binding :: (← readBindings separator rest)

/-- What a draft asks for. -/
def Draft.finish (draft : Draft) : Except UsageFault RunOptions := do
  match draft.path with
  | none => throw .pathMissing
  | some path =>
    let bindings ← readBindings draft.separator draft.bindings
    return ⟨path, draft.builder, draft.settings, draft.separator, bindings, draft.json⟩

/-- Take up arguments, in order. -/
def Draft.addAll (draft : Draft) : List String → Except UsageFault Draft
  | [] => .ok draft
  | text :: rest => do
    let next ← draft.add (.ofText text)
    next.addAll rest

/-- Read the arguments of a run. -/
def readRunOptions (arguments : List String) : Except UsageFault RunOptions := do
  let draft ← Draft.addAll {} arguments
  draft.finish

/-- Take up an argument of showing an expression, which knows one flag only. -/
def Draft.addToShow (draft : Draft) (text : String) : Except UsageFault Draft :=
  match dropWord? "--builder=".toList text.toList with
  | some rest => draft.add (.builder (String.ofList rest))
  | none =>
    if text.toList.head? == some '-' then .error (.unknownOption text)
    else draft.add (.plain text)

/-- Take up arguments of showing an expression, in order. -/
def Draft.addAllToShow (draft : Draft) : List String → Except UsageFault Draft
  | [] => .ok draft
  | text :: rest => do
    let next ← draft.addToShow text
    next.addAllToShow rest

/-- Read the arguments of showing an expression. -/
def readShowOptions (arguments : List String) : Except UsageFault ShowOptions := do
  let draft ← Draft.addAllToShow {} arguments
  match draft.path with
  | none => throw .pathMissing
  | some path => return ⟨path, draft.builder⟩

end Scriptlet.Command

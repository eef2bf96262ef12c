import Scriptlet.Command.Options
import Scriptlet.Command.Report
import Scriptlet.Tree.Exchange

/-! What the commands do with a tree. -/

namespace Scriptlet.Command

/-- A host without functions of its own. -/
def noHost : Host := fun _ call =>
  ⟨.error (.badArgument call.function.name.text (.hostSays "unknown to the host")), false⟩

/-- The names and values that bindings stand for. -/
def hostBindings : List Binding → Except EvalError (List (Name × Value))
  | [] => .ok []
  | binding :: rest => do
    let value ← Value.ofHost binding.type binding.value
    return (Name.ofText binding.name, value) :: (← hostBindings rest)

/-- Build and evaluate a tree as asked, in a frame of its own. -/
def evaluateTree (options : RunOptions) (tree : Tree) : Report :=
  let places := options.settings.places
  match hostBindings options.bindings with
  | .error error => .ofResult places (.error (.stop (.failed error)))
  | .ok bindings =>
    let interpreter := Interpreter.start options.settings options.separator bindings
    .ofResult places (interpreter.run noHost tree options.builder).1

/-- The expression that a tree means, as text, and whether its value could be kept. -/
def describeTree (builder : Builder) (tree : Tree) : Except BuildError String := do
  let expr ← builder.build '.' tree
  let answer := if expr.isDeterministic then "yes" else "no"
  return expr.text ++ "\ndeterministic: " ++ answer

/-- What a command leaves behind. -/
structure Outcome where
  /-- The exit code. -/
  exit : Nat
  /-- What is written to standard output. -/
  stdout : String
  /-- What is written to standard error. -/
  stderr : String
  deriving Repr, DecidableEq

/-- The tree of a file, given what is in it or why it cannot be read. -/
def treeOfFile (path : String) : Except String String → Except String Tree
  | .error reason => .error ("cannot read '" ++ path ++ "': " ++ reason)
  | .ok content => (Tree.ofText content).mapError (Tree.FileFault.message content)

/-- Run a script, given what is in its file. -/
def runFile (options : RunOptions) (content : Except String String) : Outcome :=
  let report := match treeOfFile options.path content with
    | .ok tree => evaluateTree options tree
    | .error message => .inputError message
  -- What a broken program writes is not for tools; of its complaint, the reason is kept.
  if report.isBreakdown then ⟨report.exitCode, "", report.error.getD "" ++ "\n"⟩
  else if options.json then ⟨report.exitCode, report.toJson.text ++ "\n", ""⟩
  else if report.success then ⟨report.exitCode, report.toText ++ "\n", ""⟩
  else ⟨report.exitCode, "", report.toText ++ "\n"⟩

/-- Show the expression of a script, given what is in its file. -/
def showFile (options : ShowOptions) (content : Except String String) : Outcome :=
  match treeOfFile options.path content with
  | .error message => ⟨1, "", "error: " ++ message ++ "\n"⟩
  | .ok tree =>
    match describeTree options.builder tree with
    | .ok text => ⟨0, text ++ "\n", ""⟩
    | .error error => ⟨1, "", "build error: " ++ error.message ++ "\n"⟩

end Scriptlet.Command

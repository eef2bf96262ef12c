import Scriptlet.Command.Run

/-! The commands, up to the reading of the file that they are about. -/

namespace Scriptlet.Command

/-- The name and version of the program. -/
def version : String :=
  "vela 0.1.0\n"

/-- How the program is used. -/
def usage : String :=
  "VeLa expression language\n" ++
  "\n" ++
  "Usage: vela <command> [options]\n" ++
  "\n" ++
  "Commands:\n" ++
  "  run <tree.json>     Build and evaluate a syntax tree\n" ++
  "  ast <tree.json>     Print the AST a syntax tree builds to\n" ++
  "  help                Show this message\n" ++
  "  version             Show version information\n" ++
  "\n" ++
  "Set RUST_LOG (e.g. RUST_LOG=vela_eval=debug) for diagnostics.\n"

/-- How scripts are run. -/
def runUsage : String :=
  "Usage: vela run <tree.json> [options]\n" ++
  "\n" ++
  "Options:\n" ++
  "  --builder=<kind>           AST builder: listener, visitor (default)\n" ++
  "  --precision=<n>            Decimal places when REALs become text (default 6)\n" ++
  "  --tolerance=<x>            Tolerance of =~ (default 1e-6)\n" ++
  "  --max-depth=<n>            Limit nested function calls\n" ++
  "  --decimal-separator=<c>    Decimal separator of REAL literals (default .)\n" ++
  "  --bind=<name>=<value>      Bind a variable before evaluation (repeatable)\n" ++
  "  --no-intrinsics            Do not install the built-in functions\n" ++
  "  --json                     Print a JSON report\n"

/-- How expressions are shown. -/
def showUsage : String :=
  "Usage: vela ast <tree.json> [--builder=listener|visitor]\n"

/-- What is to be done. -/
inductive Plan where
  /-- Nothing more; this is left behind. -/
  | done (outcome : Outcome)
  /-- Read a file, and go on with its content or with why it cannot be read. -/
  | read (path : String) (next : Except String String → Outcome)

/-- The outcome of arguments that do not fit a command. -/
def usageError (fault : UsageFault) (usage : String) : Plan :=
  .done ⟨2, "", "error: " ++ fault.message ++ "\n\n" ++ usage⟩

/-- What the arguments of the program ask for. -/
def plan : List String → Plan
  | [] => .done ⟨2, "", usage⟩
  | command :: arguments =>
    if command == "run" then
      match readRunOptions arguments with
      | .ok options => .read options.path (runFile options)
      | .error fault => usageError fault runUsage
    else if command == "ast" then
      match readShowOptions arguments with
      | .ok options => .read options.path (showFile options)
      | .error fault => usageError fault showUsage
    else if command == "help" || command == "--help" || command == "-h" then .done ⟨0, "", usage⟩
    else if command == "version" || command == "--version" || command == "-V" then
      .done ⟨0, version, ""⟩
    else .done ⟨2, "", "Unknown command: " ++ command ++ "\n\n" ++ usage⟩

end Scriptlet.Command

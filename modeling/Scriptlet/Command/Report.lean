import Scriptlet.Interpreter
import Scriptlet.Json.Basic

/-! The report on a run, for people and for tools. -/

namespace Scriptlet.Command

/-- The report on a run. -/
structure Report where
  /-- Whether there is a value. -/
  success : Bool
  /-- The value as text, or nothing. -/
  output : String
  /-- The error in words. -/
  error : Option String
  /-- The stage that failed. -/
  errorType : Option String
  /-- The kind of error. -/
  errorKind : Option String
  deriving Repr, DecidableEq

namespace Report

/-- The report on a run that has no value. -/
def ofError (error : RunError) : Report :=
  ⟨false, "", some error.message, some error.phase, some error.kind⟩

/-- The report on a run that has come to an end; writing its value may break the program. -/
def ofResult (places : Nat) : Except RunError Value → Report
  | .ok value =>
    if value.writable places then ⟨true, value.humanText places, none, none, none⟩
    else .ofError (.stop (.failed (.unwritable places)))
  | .error error => .ofError error

/-- The report on a failure before there was a tree. -/
def inputError (message : String) : Report :=
  ⟨false, "", some message, some "input", none⟩

/-- Whether the program has broken down, so that nobody gets to see the report. -/
def isBreakdown (report : Report) : Bool :=
  report.errorKind == some "Breakdown"

/-- The exit code that tells whether there is a value, or whether the program has broken down. -/
def exitCode (report : Report) : Nat :=
  if report.success then 0 else if report.isBreakdown then 101 else 1

/-- The report for tools. -/
def toJson (report : Report) : Json :=
  .object [
    ("success", .boolean report.success),
    ("output", .string report.output),
    ("error", .ofOption .string report.error),
    ("error_type", .ofOption .string report.errorType),
    ("error_kind", .ofOption .string report.errorKind)]

/-- The report for people, on one line. -/
def toText (report : Report) : String :=
  if report.success then report.output
  else
    let message := report.error.getD "unknown error"
    match report.errorType, report.errorKind with
    | some stage, some kind => stage ++ " error[" ++ kind ++ "]: " ++ message
    | some stage, none => stage ++ " error: " ++ message
    | none, _ => "error: " ++ message

end Report

end Scriptlet.Command

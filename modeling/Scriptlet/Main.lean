import Scriptlet.Command.Plan

/-! The program: it reads the file that a command is about, and writes what the command leaves. -/

namespace Scriptlet.Command

/-- Why a file cannot be read, in words. -/
def readFailure (error : IO.Error) : String :=
  match error with
  | .noFileOrDirectory _ code details | .permissionDenied _ code details
  | .inappropriateType _ code details | .resourceExhausted _ code details =>
    details ++ " (os error " ++ toString code ++ ")"
  | other => toString other

/-- The text in a file, or why it cannot be read. -/
def readText (path : String) : IO (Except String String) := do
  try
    let bytes ← IO.FS.readBinFile path
    match String.fromUTF8? bytes with
    | some text => return .ok text
    | none => return .error "stream did not contain valid UTF-8"
  catch error => return .error (readFailure error)

/-- Write what a command leaves behind, and give its exit code. -/
def finish (outcome : Outcome) : IO UInt32 := do
  (← IO.getStdout).putStr outcome.stdout
  (← IO.getStderr).putStr outcome.stderr
  return UInt32.ofNat outcome.exit

end Scriptlet.Command

open Scriptlet.Command in
/-- Do what the arguments ask for. -/
def main (arguments : List String) : IO UInt32 := do
  match plan arguments with
  | .done outcome => finish outcome
  | .read path next => finish (next (← readText path))

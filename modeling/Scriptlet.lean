import Scriptlet.Main
import Scriptlet.Proofs.Build.Acceptance
import Scriptlet.Proofs.Build.Agreement
import Scriptlet.Proofs.Build.Elision
import Scriptlet.Proofs.Build.Leaf
import Scriptlet.Proofs.Build.Lexeme
import Scriptlet.Proofs.Build.Real
import Scriptlet.Proofs.Build.Recasing
import Scriptlet.Proofs.Build.Separator
import Scriptlet.Proofs.Build.Shape
import Scriptlet.Proofs.Build.Stack
import Scriptlet.Proofs.Command.Binding
import Scriptlet.Proofs.Command.Precedence
import Scriptlet.Proofs.Command.Rearrangement
import Scriptlet.Proofs.Decimal.Double
import Scriptlet.Proofs.Decimal.Nearest
import Scriptlet.Proofs.Decimal.Places
import Scriptlet.Proofs.Decimal.Rounding
import Scriptlet.Proofs.Decimal.Written
import Scriptlet.Proofs.Interpreter.Arithmetic
import Scriptlet.Proofs.Interpreter.Cancellation
import Scriptlet.Proofs.Interpreter.Declaration
import Scriptlet.Proofs.Interpreter.Depth
import Scriptlet.Proofs.Interpreter.Environment
import Scriptlet.Proofs.Interpreter.Failure
import Scriptlet.Proofs.Interpreter.History
import Scriptlet.Proofs.Interpreter.Intrinsics
import Scriptlet.Proofs.Interpreter.Keeping
import Scriptlet.Proofs.Interpreter.Laziness
import Scriptlet.Proofs.Interpreter.Lifetime
import Scriptlet.Proofs.Interpreter.Limit
import Scriptlet.Proofs.Interpreter.Loop
import Scriptlet.Proofs.Interpreter.Refusal
import Scriptlet.Proofs.Interpreter.Run
import Scriptlet.Proofs.Machine.Isolation
import Scriptlet.Proofs.Machine.Validity
import Scriptlet.Proofs.Name
import Scriptlet.Proofs.Operator.Closeness
import Scriptlet.Proofs.Operator.Comparison
import Scriptlet.Proofs.Operator.Power
import Scriptlet.Proofs.Text.Blank
import Scriptlet.Proofs.Tree.Exchange
import Scriptlet.Proofs.Tree.Visit
import Scriptlet.Proofs.ValueType

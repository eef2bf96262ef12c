import Scriptlet.Interpreter
import Scriptlet.Proofs.Machine.Fulfilment
import Scriptlet.Proofs.Machine.Growth

/-!
Evaluation that comes to no call and to no loop.

Main statement: as long as it comes to neither, an evaluation is what is left of evaluation without
them, and it is never asked to stop.
-/

namespace Scriptlet

open Evaluation Value

/-- Like evaluation, but it goes no further where it comes to a call or to a loop. -/
def Evaluation.evalStraight (context : Context) : (steps : Nat) → Evaluator
  | 0, _, _ => throw .exhausted
  | steps + 1, expr, frame =>
    match expr with
    | .literal _ value => pure (.ofLiteral value)
    | .symbol name => Evaluation.lookup frame name
    | .node operation name children =>
      if operation = .call ∨ operation = .loop then throw .exhausted
      else evalNode context (evalStraight context steps) steps frame operation name children

/-- Where straight evaluation comes to an end, evaluation is in step with it. -/
theorem Simulation.evalStraight_keeps {relations : Relations} {left right : Context}
    (simulation : Simulation relations left right) (allowed : relations.excused .exhausted)
    (steps : Nat) : relations.KeepsAll (evalStraight left steps) (eval right steps) := by
  -- By induction on the steps, of which both are given as many.
  induction steps with
  | zero => exact fun level expr frame frame' admitted => .throw _
  | succ steps ih =>
    intro level expr frame frame' admitted
    cases expr with
    | literal token value => exact .pure (.refl_of_not_isComposite (by cases value <;> rfl))
    | symbol name => exact simulation.lookup_keeps admitted
    | node operation name children =>
      simp only [evalStraight]
      split
      -- A call or a loop may do anything, as nothing is claimed of what comes to it.
      case isTrue => exact .giveUp allowed _
      case isFalse => exact simulation.evalNode_keeps ih steps admitted

/-- Straight evaluation meets what holds without calls and loops. -/
theorem Bylaws.evalStraight_meets {conditions : Conditions} (bylaws : Bylaws conditions)
    (context : Context) (steps : Nat) : conditions.MeetsAll (evalStraight context steps) := by
  -- By induction on the steps.
  induction steps with
  | zero => exact fun level expr frame admitted => .throw fun _ held => bylaws.exhausted held
  | succ steps ih =>
    intro level expr frame admitted
    cases expr with
    | literal token value => exact .pure (fits_of_not_isComposite (by cases value <;> rfl))
    | symbol name => exact bylaws.lookup_meets admitted
    | node operation name children =>
      simp only [evalStraight]
      split
      case isTrue => exact .throw fun _ held => bylaws.exhausted held
      case isFalse other =>
        obtain ⟨still, once⟩ := not_or.mp other
        exact bylaws.evalNode_meets ih steps admitted still once

/-- That a run does not stop because it is asked to. -/
def unasked : Conditions where
  running _ _ := True
  stopped _ stop _ := stop ≠ .failed .interrupted
  admits _ _ := True
  writes _ _ := True
  fit _ := True

/-- Nothing but a call or a loop asks a run whether it is to stop. -/
theorem unasked_bylaws : Bylaws unasked where
  part _ _ _ := trivial
  arm _ _ _ := trivial
  target _ := trivial
  named _ := trivial
  -- To be interrupted is no plain failure.
  failed plain _ := by
    rintro ⟨⟩
    exact plain
  misshapen _ _ _ := nofun
  strayPair _ _ := nofun
  unknownType _ _ _ _ _ := nofun
  exhausted _ := nofun
  lookup _ _ _ _ _ := trivial
  bind _ _ _ := trivial
  define _ _ _ _ _ := trivial
  counted _ := trivial

namespace Interpreter

/-- Evaluate an expression in a frame, and go no further where that comes to a call or to a loop. -/
def straightIn (interpreter : Interpreter) (host : Host) (expr : Expr) (frame : Nat) :
    Except Stop Value × Interpreter :=
  interpreter.perform do
    ofShape expr.validate
    evalStraight (interpreter.context host) steps expr frame

variable {interpreter : Interpreter} {host : Host} {expr : Expr} {frame : Nat}

/-- An evaluation that comes to no call and to no loop is a straight one. -/
theorem evalIn_eq_straightIn
    (ends : (interpreter.straightIn host expr frame).1 ≠ .error .exhausted) :
    interpreter.evalIn host expr frame = interpreter.straightIn host expr frame := by
  -- Both sides are the same but for calls and loops, where the straight one gives up.
  let parallel := Parallel.equal (interpreter.context host) (interpreter.context host)
    (· = .exhausted) rfl rfl rfl fun _ => .inl rfl
  have kept := InStep.bind (parallel.simulation.ofShape expr.validate) fun _ _ _ =>
    parallel.simulation.evalStraight_keeps rfl steps 0 expr frame frame ⟨rfl, trivial⟩
  rw [straightIn, perform_eq] at ends
  rw [evalIn, straightIn, perform_eq, perform_eq]
  -- Straight evaluation would have given up at the first call or loop.
  rcases parallel.ends kept rfl with ⟨stop, stopped, rfl⟩ | ⟨same, worlds⟩
  · exact absurd stopped ends
  · exact Prod.ext same.symm (congrArg (fun world => { interpreter with world }) worlds.symm)

/-- An evaluation that comes to no call and to no loop does not stop because it is asked to. -/
theorem straightIn_ne_interrupted :
    (interpreter.straightIn host expr frame).1 ≠ .error (.failed .interrupted) := by
  -- The check of the shape raises another error, if any.
  have admitted : unasked.admits expr frame := trivial
  have checked : unasked.Meets 0 (Fits unasked.fit) (do
      ofShape expr.validate
      evalStraight (interpreter.context host) steps expr frame) :=
    (unasked_bylaws.ofShape admitted fun valid => ⟨(), valid⟩).bind fun _ _ =>
      unasked_bylaws.evalStraight_meets _ steps 0 expr frame admitted
  have ended := checked interpreter.world trivial
  rw [straightIn, perform]
  intro stopped
  split at stopped
  case h_1 => cases stopped
  case h_2 stop world run =>
    rw [run] at ended
    exact ended (Except.error.inj stopped)

end Interpreter

end Scriptlet

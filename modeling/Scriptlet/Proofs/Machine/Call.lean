import Scriptlet.Proofs.Library
import Scriptlet.Proofs.Machine.Simulation

/-! Calls are in step: the checks before and after them, and what they run. -/

namespace Scriptlet

open Evaluation Value

namespace Function

/-- Arguments are converted alike for corresponding functions. -/
theorem convertArguments_alike {functions : Function → Function → Prop}
    {function function' : Function} {arguments arguments' : List Value}
    (shown : function.displayName = function'.displayName)
    (sames : MatchAll functions arguments arguments')
    (params : List (Option ValueType)) (position : Nat) :
    Alike (MatchAll functions) (function.convertArguments position params arguments)
      (function'.convertArguments position params arguments') := by
  -- By induction on the arguments, which are converted one by one, whatever the parameters are.
  induction arguments generalizing arguments' params position with
  | nil =>
    cases arguments' with
    -- Whatever the first parameter asks for, there is nothing to convert.
    | nil => rcases params with _ | ⟨_ | required, params⟩ <;> trivial
    | cons value' rest' => simp [MatchAll] at sames
  | cons value rest ih =>
    cases arguments' with
    | nil => simp [MatchAll] at sames
    | cons value' rest' =>
      cases params with
      | nil => trivial
      | cons param params =>
        have others := ih sames.2 params (position + 1)
        cases param with
        | none =>
          simp only [convertArguments]
          exact others.bind fun values values' same => ⟨sames.1, same⟩
        | some required =>
          simp only [convertArguments]
          -- Matching values conform to the same types, and messages show the same name.
          rw [sames.1.type_eq, shown]
          split
          · exact rfl
          · exact others.bind fun values values' same => ⟨sames.1.converted required, same⟩

variable {functions : Function → Function → Prop} {function function' : Function}

/-- Matching arguments are checked alike for functions that show the same. -/
theorem checkArguments_alike {arguments arguments' : List Value}
    (shown : function.displayName = function'.displayName)
    (params : function.params = function'.params)
    (sames : MatchAll functions arguments arguments') :
    Alike (MatchAll functions) (function.checkArguments arguments)
      (function'.checkArguments arguments') := by
  -- As many are given on both sides, so that both are too many or too few, or neither is.
  unfold checkArguments arity
  rw [sames.length_eq, shown, params]
  split
  · exact rfl
  · exact convertArguments_alike shown sames _ _

/-- Matching results are checked alike for functions that show the same. -/
theorem checkResult_alike {result result' : Value}
    (shown : function.displayName = function'.displayName)
    (returnType : function.returnType = function'.returnType)
    (same : Value.Match functions result result') :
    Alike (Value.Match functions) (function.checkResult result)
      (function'.checkResult result') := by
  -- What decides is the declared type and the type of the result, which are the same on both sides.
  unfold checkResult
  rw [returnType, shown, same.type_eq]
  cases function'.returnType with
  | none => exact same
  | some required =>
    simp only
    split
    · exact same.converted required
    · exact rfl

end Function

namespace Simulation

variable {relations : Relations} {left right : Context}
  (simulation : Simulation relations left right) {level frame frame' : Nat} {self self' : Evaluator}

include simulation

/-- Asking whether there is room for a further call is in step. -/
theorem checkDepth_keeps :
    relations.Keeps level (fun _ _ => True) (checkDepth left) (checkDepth right) := by
  intro world world' related
  rcases simulation.room related with same | ⟨limit, full, allowed⟩
  · -- Both sides have room, or both have come to the same limit.
    rw [checkDepth_apply, checkDepth_apply, same]
    cases right.full? world' with
    | none => exact ⟨trivial, related⟩
    | some limit => exact simulation.raise _ world world' related
  · rw [checkDepth_apply left, full]
    exact InStep.excuse allowed _ world world' related

/-- Arguments are checked alike for corresponding functions. -/
theorem checkArguments_alike {function function' : Function} {arguments arguments' : List Value}
    (same : relations.functions function function')
    (sames : MatchAll relations.functions arguments arguments') :
    Alike (MatchAll relations.functions) (function.checkArguments arguments)
      (function'.checkArguments arguments') := by
  -- The check reads the face of a function only, and corresponding functions have the same.
  obtain ⟨shown, params, -⟩ := simulation.face_eq same
  exact Function.checkArguments_alike shown params sames

/-- Results are checked alike for corresponding functions. -/
theorem checkResult_alike {function function' : Function} {result result' : Value}
    (same : relations.functions function function')
    (same' : Match relations.functions result result') :
    Alike (Match relations.functions) (function.checkResult result)
      (function'.checkResult result') := by
  obtain ⟨shown, -, returnType⟩ := simulation.face_eq same
  exact Function.checkResult_alike shown returnType same'

/-- Binding parameters is in step. -/
theorem bindAll_keeps {params : List (Name × ValueType)} {values values' : List Value}
    (writes : ∀ param ∈ params, relations.writes param.1 frame frame')
    (sames : MatchAll relations.functions values values') :
    relations.Keeps level (fun _ _ => True) (bindAll frame params values)
      (bindAll frame' params values') := by
  -- By induction on the parameters, as long as there are values for them.
  induction params generalizing values values' with
  | nil => exact .pure trivial
  | cons param params ih =>
    cases values <;> cases values' <;> simp only [MatchAll] at sames
    · exact .pure trivial
    · refine InStep.bind (InStep.modify fun _ _ =>
        simulation.bind (writes param (by simp)) sames.1) fun _ _ _ => ?_
      exact ih (fun other member => writes other (by simp [member])) sames.2

/-- Functions of scripts are in step. -/
theorem runClosure_keeps (kept : relations.KeepsAll self self') {c c' : Closure}
    {arguments arguments' : List Value} (same : relations.closures c c')
    (sames : MatchAll relations.functions arguments arguments') :
    relations.Keeps level (Match relations.functions) (runClosure self c arguments)
      (runClosure self' c' arguments') := by
  obtain ⟨-, params, -, body⟩ := simulation.alike same
  -- In the frames that are made, the parameters may be bound and the body may be evaluated.
  have put : relations.Keeps level (fun frame frame' => relations.admits c.body frame frame' ∧
      ∀ param ∈ c.params, relations.writes param.1 frame frame') (Evaluation.extend c.frame)
      (Evaluation.extend c'.frame) :=
    InStep.modifyGet fun world world' related =>
      ⟨simulation.inside same related, simulation.extend same related⟩
  refine InStep.bind put fun frame frame' both => ?_
  obtain ⟨admitted, writes⟩ := both
  rw [← params, ← body]
  refine InStep.bind (simulation.bindAll_keeps writes sames) fun _ _ _ => ?_
  exact kept level c.body frame frame' admitted

/-- Functions of the host are in step. -/
theorem runHost_keeps {function : HostFunction} {arguments arguments' : List Value}
    (known : relations.natives (.host function))
    (sames : MatchAll relations.functions arguments arguments') :
    relations.Keeps level (Match relations.functions) (runHost left function arguments)
      (runHost right function arguments') := by
  -- What the host is told before, and what it is asked now, corresponds on both sides.
  refine InStep.get_bind fun world world' related => ?_
  obtain ⟨interrupts, results⟩ := simulation.host known sames related
  simp only
  rw [interrupts]
  generalize (left.host _ _).result = result at results ⊢
  generalize (right.host _ _).result = result' at results ⊢
  -- Asked to stop or not, both sides go on to the result, or to the same failure.
  cases result <;> cases result' <;> simp only [Alike] at results
  case error.error error error' =>
    subst error'
    have failed : relations.Keeps level (Match relations.functions)
        (do note (.hostRaised error); throw (.failed error))
        (do note (.hostRaised error); throw (.failed error)) :=
      InStep.bind (InStep.modify fun _ _ => simulation.noted (.hostRaised error) (by simp))
        fun _ _ _ => .throw _
    split
    · exact InStep.bind (InStep.modify fun _ _ => simulation.asked known) fun _ _ _ => failed
    · exact failed
  case ok.ok value value' =>
    split
    · exact InStep.bind (InStep.modify fun _ _ => simulation.asked known) fun _ _ _ =>
        .pure results
    · exact .pure results

/-- What functions do with their arguments is in step. -/
theorem run_keeps (kept : relations.KeepsAll self self') {function function' : Function}
    {arguments arguments' : List Value} (same : relations.functions function function')
    (sames : MatchAll relations.functions arguments arguments') :
    relations.Keeps level (Match relations.functions) (run left self function arguments)
      (run right self' function' arguments') := by
  -- Each of the three kinds runs in its own way.
  cases function <;> cases function' <;>
    simp only [Relations.functions, Function.Match] at same
  -- Only functions of the same kind correspond.
  case closure.closure => exact simulation.runClosure_keeps kept same sames
  case builtin.builtin builtin builtin' =>
    obtain ⟨rfl, -⟩ := same
    simp only [run, simulation.places_eq]
    exact simulation.ofExcept (builtin.apply_alike _ sames)
  case host.host =>
    obtain ⟨rfl, known⟩ := same
    exact simulation.runHost_keeps known sames

/-- What is done as a call is in step, as the calls are. -/
theorem underWay_keeps {function function' : Function} {arguments arguments' : List Value}
    {body body' : Evaluation Value} (same : relations.functions function function')
    (sames : MatchAll relations.functions arguments arguments')
    (kept : relations.Keeps (level + 1) (Match relations.functions) body body') :
    relations.Keeps level (Match relations.functions) (underWay function arguments body)
      (underWay function' arguments' body') := by
  intro world world' related
  have ended := kept _ _ (simulation.enter same sames related)
  rw [underWay_apply, underWay_apply]
  -- However the bodies end, both calls are left.
  cases here : body _ <;> cases there : body' _ <;> rw [here, there] at ended
  · exact ⟨ended.1, simulation.leave ended.2⟩
  · exact ended
  · exact ended
  · exact ended.imp id fun same => ⟨same.1, simulation.leave same.2⟩

/-- Calls are in step. -/
theorem call_keeps (kept : relations.KeepsAll self self') {function function' : Function}
    {arguments arguments' : List Value} (same : relations.functions function function')
    (sames : MatchAll relations.functions arguments arguments') :
    relations.Keeps level (Match relations.functions) (call left self function arguments)
      (call right self' function' arguments') := by
  -- The five parts of a call are gone through, each in step given what those before it came to.
  refine InStep.bind simulation.poll_keeps fun _ _ _ => ?_
  refine InStep.bind (simulation.ofExcept (simulation.checkArguments_alike same sames))
    fun checked checked' fit => ?_
  refine InStep.bind simulation.checkDepth_keeps fun _ _ _ => ?_
  refine InStep.bind (simulation.underWay_keeps same fit (simulation.run_keeps kept same fit))
    fun result result' found => ?_
  exact simulation.ofExcept (simulation.checkResult_alike same found)

end Simulation

end Scriptlet

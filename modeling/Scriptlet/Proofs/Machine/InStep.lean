import Scriptlet.Machine.World
import Scriptlet.Proofs.Outcome

/-!
Two evaluations side by side.

They are in step if they keep a relation between their worlds, yield related things and fail for
the same reason. Where the left one fails for an excused reason, the right one may do anything.
-/

namespace Scriptlet.Evaluation

variable {α β γ δ : Type}

/-- What an evaluation comes to. -/
def outcome (evaluation : Evaluation α) (world : World) : Except Stop α :=
  match evaluation world with
  | .ok found _ => .ok found
  | .error stop _ => .error stop

/-- The world that an evaluation leaves behind, whether it yields something or not. -/
def after (evaluation : Evaluation α) (world : World) : World :=
  match evaluation world with
  | .ok _ after => after
  | .error _ after => after

/-- Whether two evaluations end in step. -/
def EndInStep (excused : Stop → Prop) (worlds : World → World → Prop) (related : α → β → Prop) :
    EStateM.Result Stop World α → EStateM.Result Stop World β → Prop
  | .ok found world, .ok found' world' => related found found' ∧ worlds world world'
  | .error stop world, .error stop' world' => excused stop ∨ (stop = stop' ∧ worlds world world')
  | .error stop _, .ok _ _ => excused stop
  | .ok _ _, .error _ _ => False

/-- Whether two evaluations that start in related worlds end in step. -/
def InStep (excused : Stop → Prop) (worlds : World → World → Prop) (related : α → β → Prop)
    (left : Evaluation α) (right : Evaluation β) : Prop :=
  ∀ world world', worlds world world' →
    EndInStep excused worlds related (left world) (right world')

variable {excused : Stop → Prop} {worlds : World → World → Prop} {related : α → β → Prop}

/-- Evaluations in step come to the same and leave related worlds, or the left one is excused. -/
theorem InStep.ends {left : Evaluation α} {right : Evaluation β} {world world' : World}
    (both : InStep excused worlds related left right) (kept : worlds world world') :
    (∃ stop, left.outcome world = .error stop ∧ excused stop) ∨
      (Alike related (left.outcome world) (right.outcome world') ∧
        worlds (left.after world) (right.after world')) := by
  have ended := both world world' kept
  unfold outcome after
  -- Of the four ways in which two runs may end, one is ruled out and one is always excused.
  cases here : left world <;> cases there : right world' <;> rw [here, there] at ended
  · exact .inr ended
  · exact ended.elim
  · exact .inl ⟨_, rfl, ended⟩
  · exact ended.imp (fun allowed => ⟨_, rfl, allowed⟩) id

/-- Yielding related things at once is in step. -/
theorem InStep.pure {found : α} {found' : β} (same : related found found') :
    InStep excused worlds related (pure found) (pure found') :=
  fun _ _ kept => ⟨same, kept⟩

/-- Failing at once for the same reason is in step. -/
theorem InStep.throw (stop : Stop) :
    InStep excused worlds related (throw stop) (throw stop) :=
  fun _ _ kept => .inr ⟨rfl, kept⟩

/-- Whatever stops for an excused reason has ended in step with anything. -/
theorem EndInStep.excuse {stop : Stop} (allowed : excused stop) (world : World)
    (ended : EStateM.Result Stop World β) :
    EndInStep excused worlds related (.error stop world) ended := by
  -- Whatever the other one does, it is not asked about.
  cases ended with
  | ok found after => exact allowed
  | error stop' after => exact .inl allowed

/-- Failing for an excused reason is in step with anything. -/
theorem InStep.excuse {error : EvalError} (allowed : excused (.failed error))
    (right : Evaluation β) : InStep excused worlds related (raise error) right :=
  fun _ world' _ => EndInStep.excuse allowed _ (right world')

/-- Running out of steps is in step with anything if it is excused. -/
theorem InStep.giveUp (allowed : excused .exhausted) (right : Evaluation β) :
    InStep excused worlds related (MonadExcept.throw .exhausted) right :=
  fun world world' _ => EndInStep.excuse allowed world (right world')

/-- What goes on in step after two evaluations in step is in step with them. -/
theorem InStep.bind {further : γ → δ → Prop} {left : Evaluation α} {right : Evaluation β}
    {next : α → Evaluation γ} {next' : β → Evaluation δ}
    (first : InStep excused worlds related left right)
    (rest : ∀ found found', related found found' →
      InStep excused worlds further (next found) (next' found')) :
    InStep excused worlds further (left >>= next) (right >>= next') := by
  -- The left evaluation leads; what the right one does is read off from it.
  intro world world' kept
  have ended := first world world' kept
  simp only [Bind.bind, EStateM.bind]
  cases here : left world with
  | ok found after =>
    cases there : right world' with
    | ok found' after' =>
      -- Both go on, from related things and in related worlds.
      rw [here, there] at ended
      exact rest found found' ended.1 after after' ended.2
    | error stop' after' =>
      rw [here, there] at ended
      exact ended.elim
  | error stop after =>
    cases there : right world' with
    | ok found' after' =>
      -- The left evaluation is over, and excused from whatever the right one goes on to do.
      rw [here, there] at ended
      simp only
      cases next' found' after' with
      | ok _ _ => exact ended
      | error _ _ => exact .inl ended
    | error stop' after' =>
      rw [here, there] at ended
      exact ended

/-- What goes on in step after yielding one and the same thing is in step with it. -/
theorem InStep.bind_eq {further : γ → δ → Prop} {left right : Evaluation α}
    {next : α → Evaluation γ} {next' : α → Evaluation δ}
    (first : InStep excused worlds Eq left right)
    (rest : ∀ found, InStep excused worlds further (next found) (next' found)) :
    InStep excused worlds further (left >>= next) (right >>= next') := by
  -- One and the same thing has been yielded, and there is one way to go on.
  refine first.bind fun found found' same => ?_
  subst same
  exact rest found

/-- What goes on in step after yielding something that is known is in step with it. -/
theorem InStep.bind_known {known : α → Prop} {further : γ → δ → Prop} {left right : Evaluation α}
    {next : α → Evaluation γ} {next' : α → Evaluation δ}
    (first : InStep excused worlds (fun found found' => found = found' ∧ known found) left right)
    (rest : ∀ found, known found → InStep excused worlds further (next found) (next' found)) :
    InStep excused worlds further (left >>= next) (right >>= next') := by
  -- The one thing that has been yielded is known to be as claimed.
  refine first.bind fun found found' both => ?_
  obtain ⟨same, holds⟩ := both
  subst same
  exact rest found holds

/-- Evaluations in step are in step if nobody needs what they yield. -/
theorem InStep.discard {left : Evaluation α} {right : Evaluation β}
    (both : InStep excused worlds related left right) :
    InStep excused worlds (fun _ _ => True) (discard left) (discard right) := by
  -- To drop what is yielded is to map it to nothing, which changes no ending but its value.
  intro world world' kept
  have ended := both world world' kept
  change EndInStep excused worlds _ (EStateM.map (fun _ => ()) left world)
    (EStateM.map (fun _ => ()) right world')
  unfold EStateM.map
  cases here : left world <;> cases there : right world' <;> rw [here, there] at ended
  · exact ⟨trivial, ended.2⟩
  · exact ended
  · exact ended
  · exact ended

/-- Looking at related worlds is in step if what is done next is. -/
theorem InStep.get_bind {further : γ → δ → Prop} {next : World → Evaluation γ}
    {next' : World → Evaluation δ}
    (rest : ∀ world world', worlds world world' →
      InStep excused worlds further (next world) (next' world')) :
    InStep excused worlds further (get >>= next) (get >>= next') :=
  fun world world' kept => rest world world' kept world world' kept

/-- Changes that keep worlds related are in step. -/
theorem InStep.modify {change change' : World → World}
    (keeps : ∀ world world', worlds world world' → worlds (change world) (change' world')) :
    InStep excused worlds (fun _ _ => True) (modify change) (modify change') :=
  fun world world' kept => ⟨trivial, keeps world world' kept⟩

/-- Reading off worlds while they change is in step if the reading is related too. -/
theorem InStep.modifyGet {change : World → α × World} {change' : World → β × World}
    (keeps : ∀ world world', worlds world world' →
      related (change world).1 (change' world').1 ∧ worlds (change world).2 (change' world').2) :
    InStep excused worlds related (modifyGet change) (modifyGet change') :=
  fun world world' kept => keeps world world' kept

section Raising

variable (noted : ∀ error world world', worlds world world' →
  worlds (world.note (.raised error)) (world'.note (.raised error)))

include noted

/-- Failing with the same error is in step if the journals may tell of it. -/
theorem InStep.raise (error : EvalError) :
    InStep excused worlds related (raise error) (raise error) :=
  fun world world' kept => .inr ⟨rfl, noted error world world' kept⟩

/-- Related outcomes are taken over in step. -/
theorem InStep.ofExcept {left : Except EvalError α} {right : Except EvalError β}
    (same : Alike related left right) :
    InStep excused worlds related (ofExcept left) (ofExcept right) := by
  -- Outcomes are related if both are values or both are the same error.
  cases left <;> cases right <;> simp only [Alike] at same
  · subst same
    exact .raise noted _
  · exact .pure same

/-- The same look at a node's shape is in step with itself. -/
theorem InStep.ofShape (shape : Except ShapeError α) :
    InStep excused worlds (fun found found' => found = found' ∧ shape = .ok found)
      (ofShape shape) (ofShape shape) := by
  -- The shape is found, or it is missing on both sides.
  cases shape with
  | ok found => exact .pure ⟨rfl, rfl⟩
  | error error => exact .raise noted _

end Raising

end Scriptlet.Evaluation

import Scriptlet.Proofs.Machine.Parallel

/-!
How many steps an evaluation is given: enough of them, or it is cut off.

Main statement: an evaluation that is not cut off goes just the same with more steps. So there is
something that evaluation comes to, whatever number of steps brings it about.
-/

namespace Scriptlet

open Evaluation Value

namespace Simulation

variable {relations : Relations} {left right : Context}
  (simulation : Simulation relations left right) (cut : relations.excused .exhausted)
  {level frame frame' : Nat} {self self' : Evaluator}

include simulation cut

/-- Rounds of a loop are in step if there are more of them on the right. -/
theorem evalRounds_keeps_of_le (kept : relations.KeepsAll self self') {condition body : Expr}
    (admitted : relations.admits condition frame frame')
    (admitted' : relations.admits body frame frame') {rounds rounds' : Nat}
    (more : rounds ≤ rounds') :
    relations.Keeps level (Match relations.functions)
      (evalRounds self frame condition body rounds)
      (evalRounds self' frame' condition body rounds') := by
  -- By induction on the rounds of the left side, which has fewer of them.
  induction rounds generalizing rounds' with
  -- Without rounds left, the left side is excused from whatever the right one still does.
  | zero => exact .giveUp cut _
  | succ rounds ih =>
    obtain ⟨rounds', rfl⟩ : ∃ others, rounds' = others + 1 := ⟨rounds' - 1, by omega⟩
    rw [evalRounds_succ, evalRounds_succ]
    refine InStep.bind_eq (simulation.evalRound_keeps kept admitted admitted') fun again => ?_
    cases again with
    | true => exact ih (Nat.le_of_succ_le_succ more)
    | false => exact .pure trivial

/-- Nodes are in step if what lies below them is and loops have more rounds on the right. -/
theorem evalNode_keeps_of_le (kept : relations.KeepsAll self self') {rounds rounds' : Nat}
    (more : rounds ≤ rounds') {operation : Operation} {name : Option Name} {children : List Expr}
    (whole : relations.admits (.node operation name children) frame frame') :
    relations.Keeps level (Match relations.functions)
      (evalNode left self rounds frame operation name children)
      (evalNode right self' rounds' frame' operation name children) := by
  -- Of all nodes only loops look at the number of rounds.
  cases operation
  case loop =>
    refine simulation.pair_bind fun condition body parts => ?_
    subst parts
    exact simulation.evalRounds_keeps_of_le cut kept
      (simulation.part whole (by simp) (by simp)) (simulation.part whole (by simp) (by simp)) more
  all_goals exact simulation.evalNode_keeps kept rounds whole

/-- Evaluation is in step if it is given more steps on the right. -/
theorem eval_keeps_of_le {steps steps' : Nat} (more : steps ≤ steps') :
    relations.KeepsAll (eval left steps) (eval right steps') := by
  -- By induction on the steps of the left side, which has fewer of them.
  induction steps generalizing steps' with
  | zero => exact fun level expr frame frame' admitted => .giveUp cut _
  | succ steps ih =>
    obtain ⟨steps', rfl⟩ : ∃ others, steps' = others + 1 := ⟨steps' - 1, by omega⟩
    intro level expr frame frame' admitted
    cases expr with
    | literal token value =>
      exact .pure (.refl_of_not_isComposite (by cases value <;> rfl))
    | symbol name => exact simulation.lookup_keeps admitted
    | node operation name children =>
      have fewer := Nat.le_of_succ_le_succ more
      exact simulation.evalNode_keeps_of_le cut (ih fewer) fewer admitted

end Simulation

/-- What an evaluation ends with: what it yields or why it stops, and the world it leaves. -/
abbrev Ending (α : Type) := EStateM.Result Stop World α

/-- Whether an evaluation has been cut off for want of steps. -/
def Ending.IsCut {α : Type} (ending : Ending α) : Prop :=
  ∃ world, ending = .error .exhausted world

/-- An evaluation that yields something has not been cut off. -/
theorem Ending.not_isCut_ok {α : Type} {value : α} {world : World} :
    ¬Ending.IsCut (.ok value world : Ending α) := nofun

/-- An evaluation that fails has been cut off exactly if it has run out of steps. -/
theorem Ending.isCut_error_iff {α : Type} {stop : Stop} {world : World} :
    Ending.IsCut (.error stop world : Ending α) ↔ stop = .exhausted :=
  ⟨fun ⟨_, same⟩ => (EStateM.Result.error.inj same).1, fun same => ⟨world, same ▸ rfl⟩⟩

/-- Whether an evaluation that is not cut off ends in the same way with any more steps. -/
def Lasting {α : Type} (run : Nat → Evaluation α) : Prop :=
  ∀ steps steps' world, steps ≤ steps' →
    Ending.IsCut (run steps world) ∨ run steps' world = run steps world

/-- Whether an evaluation ends with something if it is given steps enough. -/
def ComesTo {α : Type} (run : Nat → Evaluation α) (world : World) (ending : Ending α) : Prop :=
  ∃ steps, run steps world = ending ∧ ¬ending.IsCut

/-- Whether an expression comes to something in a frame and a world if it is given steps enough. -/
def Comes (context : Context) (expr : Expr) (frame : Nat) : World → Ending Value → Prop :=
  ComesTo fun steps => eval context steps expr frame

/-- More steps change nothing if the run with fewer of them is in step, or is cut off. -/
theorem lasting_of_inStep {α : Type} {related : α → α → Prop} {run : Nat → Evaluation α}
    (same : ∀ found found', related found found' → found = found')
    (kept : ∀ {steps steps'}, steps ≤ steps' →
      InStep (· = .exhausted) Eq related (run steps) (run steps')) : Lasting run := by
  intro steps steps' world more
  have ended := kept more world world rfl
  -- Both end alike, or the first one for want of steps.
  cases here : run steps world <;> cases there : run steps' world <;> rw [here, there] at ended
  case ok.ok value after value' after' =>
    obtain ⟨matched, rfl⟩ := ended
    exact .inr (by rw [same value value' matched])
  case ok.error => exact ended.elim
  case error.ok stop after value after' =>
    obtain rfl : stop = .exhausted := ended
    exact .inl ⟨after, rfl⟩
  case error.error stop after stop' after' =>
    rcases ended with rfl | ⟨rfl, rfl⟩
    · exact .inl ⟨after, rfl⟩
    · exact .inr rfl

/-- More steps change nothing in the evaluation of an expression that is not cut off. -/
theorem lasting_eval (context : Context) (expr : Expr) (frame : Nat) :
    Lasting fun steps => eval context steps expr frame := by
  let parallel : Parallel context context :=
    .equal context context (· = .exhausted) rfl rfl rfl fun _ => .inl rfl
  -- In worlds that are equal, functions that correspond are equal too.
  have same (value value' : Value) (matched : Match parallel.relations.functions value value') :
      value = value' := Match.eq value value' (fun _ _ _ => id) matched
  exact lasting_of_inStep same fun more =>
    parallel.simulation.eval_keeps_of_le rfl more 0 expr frame frame ⟨rfl, trivial⟩

/-- More steps change nothing in a round of a loop that is not cut off. -/
theorem lasting_evalRound (context : Context) (frame : Nat) (condition body : Expr) :
    Lasting fun steps => evalRound (eval context steps) frame condition body := by
  -- The run with fewer steps is excused if they run out, and all else is the same.
  let parallel : Parallel context context :=
    .equal context context (· = .exhausted) rfl rfl rfl fun _ => .inl rfl
  refine lasting_of_inStep (fun _ _ => id) fun {steps steps'} more => ?_
  have kept : parallel.relations.Keeps 0 Eq
      (evalRound (eval context steps) frame condition body)
      (evalRound (eval context steps') frame condition body) :=
    parallel.simulation.evalRound_keeps (parallel.simulation.eval_keeps_of_le rfl more)
      ⟨rfl, trivial⟩ ⟨rfl, trivial⟩
  exact kept

section Families

variable {α β : Type} {run : Nat → Evaluation α} {next : α → Nat → Evaluation β} {world : World}

/-- What takes no steps does not change with more of them. -/
theorem Lasting.const (evaluation : Evaluation α) : Lasting fun _ => evaluation :=
  fun _ _ _ _ => .inr rfl

/-- An evaluation that is not cut off ends with what it comes to. -/
theorem ComesTo.eval_eq (lasting : Lasting run) {ending : Ending α}
    (comes : ComesTo run world ending) (steps : Nat) :
    Ending.IsCut (run steps world) ∨ run steps world = ending := by
  -- What it comes to, it ends with for some number of steps.
  obtain ⟨enough, rfl, whole⟩ := comes
  -- With fewer steps than enough it may be cut off, and with more of them it is not.
  rcases Nat.le_total steps enough with fewer | more
  · exact (lasting _ _ world fewer).imp_right Eq.symm
  · exact .inr ((lasting _ _ world more).resolve_left whole)

/-- An evaluation comes to one thing only. -/
theorem ComesTo.unique (lasting : Lasting run) {ending ending' : Ending α}
    (comes : ComesTo run world ending) (comes' : ComesTo run world ending') :
    ending = ending' := by
  -- One of the two is what it ends with for some number of steps.
  obtain ⟨steps, rfl, whole⟩ := comes
  exact (comes'.eval_eq lasting steps).resolve_left whole

/-- Behind an evaluation that yields something comes what is done with it. -/
theorem bind_apply_ok {evaluation : Evaluation α} {value : α} {after : World}
    (ended : evaluation world = .ok value after) (further : α → Evaluation β) :
    (evaluation >>= further) world = further value after := by
  simp only [Bind.bind, EStateM.bind, ended]

/-- Behind an evaluation that fails nothing is done. -/
theorem bind_apply_error {evaluation : Evaluation α} {stop : Stop} {after : World}
    (ended : evaluation world = .error stop after) (further : α → Evaluation β) :
    (evaluation >>= further) world = .error stop after := by
  simp only [Bind.bind, EStateM.bind, ended]

/-- One evaluation after another ends in the same way with any more steps if both do. -/
theorem Lasting.bind (lasting : Lasting run) (lasting' : ∀ value, Lasting (next value)) :
    Lasting fun steps => run steps >>= fun value => next value steps := by
  -- All depends on whether the first evaluation yields something.
  intro steps steps' world more
  have first := lasting steps steps' world more
  simp only
  cases here : run steps world with
  | ok value after =>
    rw [here] at first
    -- The first evaluation has not been cut off, so the second one starts from the same world.
    have same := first.resolve_left Ending.not_isCut_ok
    rw [bind_apply_ok here, bind_apply_ok same]
    exact lasting' value steps steps' after more
  | error stop after =>
    rw [here] at first
    rw [bind_apply_error here]
    refine first.imp (fun cut => ?_) fun same => bind_apply_error same _
    exact Ending.isCut_error_iff.mpr (Ending.isCut_error_iff.mp cut)

/-- One evaluation after another comes to what the second one does, or to a failure of the first. -/
theorem comesTo_bind (lasting : Lasting run) (lasting' : ∀ value, Lasting (next value))
    {ending : Ending β} :
    ComesTo (fun steps => run steps >>= fun value => next value steps) world ending ↔
      (∃ value between, ComesTo run world (.ok value between) ∧
        ComesTo (next value) between ending) ∨
      ∃ stop after, ComesTo run world (.error stop after) ∧ ending = .error stop after := by
  -- A run in a row is two runs, each with as many steps as the row is given.
  constructor
  · rintro ⟨steps, rfl, whole⟩
    simp only at whole ⊢
    cases here : run steps world with
    | ok value between =>
      rw [bind_apply_ok here] at whole ⊢
      exact .inl ⟨value, between, ⟨steps, here, Ending.not_isCut_ok⟩, steps, rfl, whole⟩
    | error stop after =>
      rw [bind_apply_error here] at whole ⊢
      rw [Ending.isCut_error_iff, ← Ending.isCut_error_iff (α := α)] at whole
      exact .inr ⟨stop, after, ⟨steps, here, whole⟩, rfl⟩
  · rintro (⟨value, between, ⟨steps, ended, -⟩, further, rfl, whole⟩ |
      ⟨stop, after, ⟨steps, ended, whole⟩, rfl⟩)
    · -- Both are given as many steps as the one that needs more of them.
      have first : run (max steps further) world = .ok value between := by
        have longer := lasting _ _ world (Nat.le_max_left steps further)
        rw [ended] at longer
        exact longer.resolve_left Ending.not_isCut_ok
      refine ⟨max steps further, ?_, whole⟩
      simp only [bind_apply_ok first]
      exact (lasting' value _ _ between (Nat.le_max_right ..)).resolve_left whole
    -- The first evaluation fails, whatever the second one would have needed.
    · rw [Ending.isCut_error_iff, ← Ending.isCut_error_iff (α := β)] at whole
      exact ⟨steps, bind_apply_error ended _, whole⟩

/-- An evaluation that takes no steps comes to what it ends with. -/
theorem comesTo_const {evaluation : Evaluation α} {ending : Ending α}
    (whole : ¬Ending.IsCut (evaluation world)) :
    ComesTo (fun _ => evaluation) world ending ↔ ending = evaluation world :=
  ⟨fun ⟨_, ended, _⟩ => ended.symm, fun same => ⟨0, same.symm, same ▸ whole⟩⟩

end Families

section Expressions

variable {context : Context} {expr : Expr} {frame : Nat} {world : World}

/-- The first step is always needed. -/
theorem comes_iff_succ {ending : Ending Value} :
    Comes context expr frame world ending ↔
      ComesTo (fun steps => eval context (steps + 1) expr frame) world ending := by
  -- One step is spent on the expression itself.
  constructor
  · rintro ⟨steps, ended, whole⟩
    -- Without any steps an evaluation is cut off at once.
    cases steps with
    | zero => exact absurd ⟨world, ended.symm⟩ whole
    | succ steps => exact ⟨steps, ended, whole⟩
  · rintro ⟨steps, ended, whole⟩
    exact ⟨steps + 1, ended, whole⟩

/-- An expression comes to one thing only. -/
theorem Comes.unique {ending ending' : Ending Value} (comes : Comes context expr frame world ending)
    (comes' : Comes context expr frame world ending') : ending = ending' :=
  ComesTo.unique (lasting_eval context expr frame) comes comes'

end Expressions

end Scriptlet

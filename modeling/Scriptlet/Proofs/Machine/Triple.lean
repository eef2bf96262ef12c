import Scriptlet.Machine.World

/-!
What holds after an evaluation if something held before it.

There are two ways to end, and what is claimed of the world may differ between them: an evaluation
yields something, or it stops for a reason.
-/

namespace Scriptlet.Evaluation

variable {α β : Type}

/-- Whether a run ends in one of two ways as claimed. -/
def Ends (yields : α → World → Prop) (stops : Stop → World → Prop) :
    EStateM.Result Stop World α → Prop
  | .ok found world => yields found world
  | .error stop world => stops stop world

/-- A run that ends as claimed ends as anything that follows from it. -/
theorem Ends.mono {yields further : α → World → Prop} {stops stops' : Stop → World → Prop}
    {ending : EStateM.Result Stop World α} (ended : Ends yields stops ending)
    (result : ∀ found world, yields found world → further found world)
    (failure : ∀ stop world, stops stop world → stops' stop world) :
    Ends further stops' ending := by
  -- Each of the two ways to end is weakened by itself.
  cases ending with
  | ok found world => exact result found world ended
  | error stop world => exact failure stop world ended

/-- Whether an evaluation ends as claimed in all worlds of which something holds. -/
def Triple (before : World → Prop) (evaluation : Evaluation α) (yields : α → World → Prop)
    (stops : Stop → World → Prop) : Prop :=
  ∀ world, before world → Ends yields stops (evaluation world)

variable {before : World → Prop} {yields : α → World → Prop} {stops : Stop → World → Prop}
  {evaluation : Evaluation α}

/-- A run ends as claimed if its result is as claimed, and its failure is. -/
theorem Triple.ends (triple : Triple before evaluation yields stops) {world : World}
    (held : before world) :
    (∀ found after, evaluation world = .ok found after → yields found after) ∧
      ∀ stop after, evaluation world = .error stop after → stops stop after := by
  -- One of the two holds for a run that ends in the other way.
  have ended := triple world held
  constructor
  · intro found after run
    rwa [run] at ended
  · intro stop after run
    rwa [run] at ended

/-- What is claimed of all worlds of a kind is claimed of each of them. -/
theorem Triple.here {world : World} (triple : Triple before evaluation yields stops)
    (held : before world) : Triple (· = world) evaluation yields stops := by
  -- There is one world to start from.
  intro start same
  subst same
  exact triple start held

/-- What does not hang on the world may be taken for granted. -/
theorem Triple.known {fact : Prop} (granted : fact → Triple before evaluation yields stops) :
    Triple (fun world => fact ∧ before world) evaluation yields stops :=
  fun world both => granted both.1 world both.2

/-- Something is yielded at once, in the world as it is. -/
theorem Triple.pure {found : α} (held : ∀ world, before world → yields found world) :
    Triple before (pure found) yields stops :=
  held

/-- An evaluation stops at once, in the world as it is. -/
theorem Triple.throw {stop : Stop} (held : ∀ world, before world → stops stop world) :
    Triple before (throw stop) yields stops :=
  held

/-- What goes on after an evaluation starts from what that one yields; a failure ends both. -/
theorem Triple.bind {next : α → Evaluation β} {further : β → World → Prop}
    (first : Triple before evaluation yields stops)
    (rest : ∀ found, Triple (yields found) (next found) further stops) :
    Triple before (evaluation >>= next) further stops := by
  -- The second evaluation starts where the first one ends, if that yields anything.
  intro world held
  have ended := first world held
  simp only [Bind.bind, EStateM.bind]
  cases run : evaluation world with
  | ok found after =>
    rw [run] at ended
    exact rest found after ended
  | error stop after =>
    rw [run] at ended
    exact ended

/-- What an evaluation yields may be thrown away, and with it what is claimed of that. -/
theorem Triple.discard {left : World → Prop} (triple : Triple before evaluation yields stops)
    (forget : ∀ found world, yields found world → left world) :
    Triple before (discard evaluation) (fun _ => left) stops := by
  -- To throw away what is yielded is to map it to nothing.
  intro world held
  have ended := triple world held
  change Ends _ _ (EStateM.map (fun _ => ()) evaluation world)
  unfold EStateM.map
  cases run : evaluation world with
  | ok found after =>
    rw [run] at ended
    exact forget found after ended
  | error stop after =>
    rw [run] at ended
    exact ended

/-- What is done after a look at the world may rest on what holds of this very world. -/
theorem Triple.get_bind {next : World → Evaluation β} {further : β → World → Prop}
    (rest : ∀ world, before world → Triple (· = world) (next world) further stops) :
    Triple before (get >>= next) further stops :=
  fun world held => rest world held world rfl

/-- A change of the world is one that what is claimed afterwards survives. -/
theorem Triple.modify {change : World → World} {left : World → Prop}
    (keeps : ∀ world, before world → left (change world)) :
    Triple before (modify change) (fun _ => left) stops :=
  keeps

/-- A change of the world may yield what is read off it. -/
theorem Triple.modifyGet {change : World → α × World}
    (keeps : ∀ world, before world → yields (change world).1 (change world).2) :
    Triple before (modifyGet change) yields stops :=
  keeps

/-- To fail is to write the error down and to stop for it. -/
theorem Triple.raise {error : EvalError}
    (noted : ∀ world, before world → stops (.failed error) (world.note (.raised error))) :
    Triple before (raise error) yields stops :=
  noted

/-- What has been computed is yielded, or its error is raised. -/
theorem Triple.ofExcept {outcome : Except EvalError α}
    (result : ∀ found, outcome = .ok found → ∀ world, before world → yields found world)
    (failure : ∀ error, outcome = .error error →
      ∀ world, before world → stops (.failed error) (world.note (.raised error))) :
    Triple before (ofExcept outcome) yields stops := by
  -- What was computed decides between the two.
  cases outcome with
  | ok found => exact .pure (result found rfl)
  | error error => exact .raise (failure error rfl)

/-- A shape that has been read off a node is yielded, or its error is raised. -/
theorem Triple.ofShape {outcome : Except ShapeError α}
    (result : ∀ found, outcome = .ok found → ∀ world, before world → yields found world)
    (failure : ∀ error, outcome = .error error → ∀ world, before world →
      stops (.failed (.badShape error)) (world.note (.raised (.badShape error)))) :
    Triple before (ofShape outcome) yields stops := by
  -- What was read off decides between the two.
  cases outcome with
  | ok found => exact .pure (result found rfl)
  | error error => exact .raise (failure error rfl)

end Scriptlet.Evaluation

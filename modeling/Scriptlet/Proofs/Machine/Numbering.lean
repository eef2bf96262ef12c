import Scriptlet.Proofs.Heap.Reach
import Scriptlet.Proofs.Machine.Steps
import Scriptlet.Proofs.Machine.Stock

/-!
Functions and frames are numbered before they come up.

Main statement: if all functions that are bound in a region have been counted, and none of them is
one of the host, then this is true of all that is bound in the region after a round of a loop there
as well, even if the round has failed. Nobody has asked the run to stop then, and no call has been
left open.
-/

namespace Scriptlet

open Evaluation Value

/-- Whether a frame has come about, in a region. -/
def World.Has (region : Nat → Prop) (world : World) (frame : Nat) : Prop :=
  region frame ∧ frame < world.heap.next

/-- Whether a function has come about: one of a script in a region, or a built-in one. -/
def Function.Made (region : Nat → Prop) (world : World) : Function → Prop
  | .closure defined => defined.id < world.definitions ∧ world.Has region defined.frame
  | .builtin _ => True
  | .host _ => False

/-- Whether all functions in a value have come about. -/
def Value.Made (region : Nat → Prop) (world : World) (value : Value) : Prop :=
  value.Only (Function.Made region world)

/-- Whether all that is bound in a region has come about, and the run is not asked to stop. -/
structure World.Settled (region : Nat → Prop) (world : World) : Prop where
  /-- Nobody has asked the run to stop. -/
  quiet : world.interrupted = false
  /-- Frames that are still to come are in the region. -/
  later : ∀ frame, world.heap.next ≤ frame → region frame
  /-- The frame around a frame of the region has come about. -/
  parents : ∀ {frame outer}, region frame → world.heap.parent? frame = some outer →
    world.Has region outer
  /-- What is bound in the region has come about. -/
  values : ∀ {frame name value}, region frame → world.heap.find? frame name = some value →
    value.Made region world

section Made

variable {region : Nat → Prop} {world later : World} {frame : Nat} {value : Value}

/-- A frame that has come about stays. -/
theorem World.Has.mono (has : world.Has region frame) (before : world.Before later) :
    later.Has region frame :=
  ⟨has.1, Nat.lt_of_lt_of_le has.2 before.next_le⟩

/-- A function that has come about stays. -/
theorem Function.Made.mono {function : Function} (made : function.Made region world)
    (before : world.Before later) : function.Made region later := by
  -- A function of a script stays counted in a frame that stays; a built-in one is always there.
  cases function with
  | closure closure => exact ⟨Nat.lt_of_lt_of_le made.1 before.definitions_le, made.2.mono before⟩
  | builtin builtin => trivial
  | host host => exact made

/-- What has come about stays. -/
theorem Value.Made.mono (made : value.Made region world) (before : world.Before later) :
    value.Made region later :=
  fun function member => (made function member).mono before

/-- Functions of scripts that have come about were defined in the region. -/
theorem Value.Made.within (made : value.Made region world) : value.Within region :=
  fun _ member => (made _ ((mem_closures_iff value).mp member)).2.1

end Made

namespace World.Settled

variable {region : Nat → Prop} {world : World} {frame : Nat}

/-- Nothing leads out of the region of a settled world. -/
theorem closed (settled : world.Settled region) : world.heap.Closed region where
  parents inside around := (settled.parents inside around).1
  values inside found := (settled.values inside found).within

/-- A world stays settled when something is written down. -/
theorem note (settled : world.Settled region) (happening : Happening) :
    (world.note happening).Settled region :=
  ⟨settled.quiet, settled.later, settled.parents, settled.values⟩

/-- A world stays settled when something is bound that has come about. -/
theorem bind {value : Value} (settled : world.Settled region) (made : value.Made region world)
    (frame : Nat) (name : Name) : (world.bind frame name value).Settled region where
  quiet := by simpa using settled.quiet
  later frame new := settled.later frame (by simpa using new)
  parents inside around := by
    rw [heap_bind, Heap.parent?_bind] at around
    exact (settled.parents inside around).mono (.bind ..)
  values inside found := by
    rw [heap_bind] at found
    -- What is found was bound before, or it is what has just been bound.
    refine Made.mono ?_ (.bind world frame name value)
    rcases Heap.find?_of_bind found with before | rfl
    · exact settled.values inside before
    · exact made

/-- A world stays settled when a definition is counted. -/
theorem counted (settled : world.Settled region) :
    { world with definitions := world.definitions + 1 }.Settled region :=
  ⟨settled.quiet, settled.later, settled.parents, fun inside found =>
    (settled.values inside found).mono ⟨Nat.le_refl _, Nat.le_succ _⟩⟩

/-- A world stays settled when a frame is put into one of the region. -/
theorem extend (settled : world.Settled region) (has : world.Has region frame) :
    { world with heap := world.heap.extend frame }.Settled region where
  quiet := settled.quiet
  later other new := settled.later other (Nat.le_of_succ_le (by simpa using new))
  parents {other outer} inside around := by
    refine Has.mono ?_ (.extend world frame)
    by_cases last : other = world.heap.next
    · rw [last, Heap.parent?_extend_self, Option.some.injEq] at around
      rwa [← around]
    · rw [Heap.parent?_extend_of_ne _ last] at around
      exact settled.parents inside around
  values reached found := by
    refine Made.mono ?_ (.extend world frame)
    exact settled.values reached (by simpa using found)

/-- What is found from a frame of the region has come about. -/
theorem lookup {name : Name} {value : Value} (settled : world.Settled region)
    (inside : region frame) (found : world.heap.lookup frame name = some value) :
    value.Made region world := by
  -- The search ends in a frame of the region, for nothing leads out of it.
  obtain ⟨holder, reached, here⟩ := settled.closed.find?_of_lookup inside found
  exact settled.values reached here

end World.Settled

namespace Evaluation

variable {α : Type} {region : Nat → Prop} {start : World}

/-- Whether an evaluation may leave a world behind that has started in another one. -/
structure Leads (region : Nat → Prop) (start after : World) : Prop where
  /-- Nothing has been taken away. -/
  before : start.Before after
  /-- As many calls are under way. -/
  depth_eq : after.depth = start.depth
  /-- All has come about that is bound. -/
  settled : after.Settled region

/-- Whether an evaluation leaves a settled world settled, and yields what is claimed if anything. -/
def Settles (region : Nat → Prop) (start : World) (yields : World → α → Prop)
    (evaluation : Evaluation α) : Prop :=
  start.Settled region →
    Ends (fun found after => Leads region start after ∧ yields after found)
      (fun _ after => Leads region start after) (evaluation start)

/-- Doing nothing leads nowhere. -/
theorem Leads.refl (settled : start.Settled region) : Leads region start start :=
  ⟨.refl start, rfl, settled⟩

/-- One evaluation after another leads on, as each of them does. -/
theorem Leads.trans {between after : World} (first : Leads region start between)
    (second : Leads region between after) : Leads region start after :=
  ⟨first.before.trans second.before, second.depth_eq.trans first.depth_eq, second.settled⟩

/-- What has come about in a settled world. -/
def settledStock (region : Nat → Prop) : Stock where
  frames := World.Has region
  functions world function := function.Made region world
  holds level world := world.depth = level ∧ world.Settled region

/-- Evaluation leaves a settled world settled in all that it does; the host is not called. -/
theorem upheld_settledStock (region : Nat → Prop) (context : Context) :
    (settledStock region).Upheld context where
  frames_mono before has := has.mono before
  functions_mono before made := made.mono before
  builtin := trivial
  noted _ held := ⟨held.1, held.2.note _⟩
  lookup has held found := held.2.lookup has.1 found
  bind {level world frame name value} made held := ⟨by simpa using held.1, held.2.bind made _ _⟩
  counted held := ⟨held.1, held.2.counted⟩
  -- The number of the new function is below that of the next one.
  define {level world _ _ _ _ _} has _ := ⟨Nat.lt_succ_self _, has.mono (.counted world)⟩
  enter _ _ held := by
    obtain ⟨rfl, settled⟩ := held
    exact ⟨rfl, settled.quiet, settled.later, settled.parents, settled.values⟩
  answered known := known.elim
  leave {level world} held := by
    obtain ⟨depth, settled⟩ := held
    refine ⟨?_, settled.quiet, settled.later, settled.parents, settled.values⟩
    simp only [afterCall, World.note]
    omega
  extend {level world closure} made held :=
    -- The new frame is in the region, as all frames are that are still to come.
    ⟨⟨held.1, held.2.extend made.2⟩, held.2.later _ (Nat.le_refl _), by simp⟩

/-- An evaluation that keeps what holds in a settled world leaves it settled. -/
theorem settles_of_keeps {yields : World → α → Prop} {evaluation : Evaluation α}
    (kept : (settledStock region).Keeps start.depth start yields evaluation) :
    Settles region start yields evaluation := by
  -- The stock holds in a settled world, at the depth at which the evaluation starts.
  intro settled
  have leads {after : World} (ends : (settledStock region).Leads start.depth start after) :
      Leads region start after := ⟨ends.before, ends.holds.1, ends.holds.2⟩
  exact (kept ⟨rfl, settled⟩).mono (fun _ _ ended => ⟨leads ended.1, ended.2⟩)
    fun _ _ => leads

/-- A round of a loop leaves a settled world settled. -/
theorem settles_evalRound (context : Context) (steps : Nat) {frame : Nat} (condition body : Expr)
    (has : start.Has region frame) :
    Settles region start (fun _ _ => True)
      (evalRound (eval context steps) frame condition body) :=
  have upheld := upheld_settledStock region context
  settles_of_keeps (upheld.evalRound (upheld.keepsAll_eval steps) has condition body)

end Evaluation

/-- Whether no function of the host is bound where it can be reached, lists included. -/
def Heap.Hostless (heap : Heap) (roots : Nat → Prop) : Prop :=
  ∀ frame name value, heap.Reaches roots frame → heap.find? frame name = some value →
    ∀ host, .host host ∉ value.functions

/-- Whether all that can be reached has come about: frames are there, functions are counted. -/
structure World.Grounded (world : World) (roots : Nat → Prop) : Prop where
  /-- The frames that can be reached are there. -/
  frames : ∀ frame, world.heap.Reaches roots frame → frame < world.heap.next
  /-- The functions that can be reached have been given numbers. -/
  counted : ∀ closure, world.heap.Reached roots closure → closure.id < world.definitions

/-- Without functions of the host, what can be reached and has come about makes a settled world. -/
theorem World.Grounded.settled {world : World} {roots : Nat → Prop}
    (grounded : world.Grounded roots) (hostless : world.heap.Hostless roots)
    (quiet : world.interrupted = false) : world.Settled (world.heap.scope roots) where
  quiet := quiet
  later _ new := .inr new
  parents {frame outer} inside around := by
    rcases inside with reached | new
    · have outside := Heap.Reaches.parent reached around
      exact ⟨.inl outside, grounded.frames outer outside⟩
    · rw [Heap.parent?_of_next_le _ new] at around
      cases around
  values {frame name value} inside found := by
    rcases inside with reached | new
    · intro function member
      cases function with
      | closure closure =>
        have held := (mem_closures_iff value).mpr member
        have outside := Heap.Reaches.captured reached found held
        exact ⟨grounded.counted closure ⟨frame, name, value, reached, found, held⟩, .inl outside,
          grounded.frames closure.frame outside⟩
      | builtin builtin => trivial
      | host host => exact absurd member (hostless frame name value reached found host)
    · rw [Heap.find?_of_next_le _ _ new] at found
      cases found

/-- Of what is settled all over, everything that can be reached has come about. -/
theorem World.Settled.grounded {world : World} (settled : world.Settled fun _ => True)
    {roots : Nat → Prop} (there : ∀ frame, roots frame → frame < world.heap.next) :
    world.Grounded roots ∧ world.heap.Hostless roots := by
  -- Of all that is bound anywhere, what can be reached is a part.
  refine ⟨⟨fun frame reached => ?_, ?_⟩, ?_⟩
  · -- By induction on the way to the frame.
    induction reached with
    | root start => exact there _ start
    | parent _ around _ => exact (settled.parents trivial around).2
    | @captured frame name value closure _ found member _ =>
      exact (settled.values trivial found _ ((mem_closures_iff value).mp member)).2.2
  · -- A function that can be reached is bound somewhere.
    rintro closure ⟨frame, name, value, -, found, member⟩
    exact (settled.values trivial found _ ((mem_closures_iff value).mp member)).1
  · -- The host has no part in what has come about.
    intro frame name value _ found host member
    exact settled.values trivial found _ member

end Scriptlet

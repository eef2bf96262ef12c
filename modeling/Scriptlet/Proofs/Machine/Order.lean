import Scriptlet.Proofs.Heap.Chain
import Scriptlet.Proofs.Heap.Reach
import Scriptlet.Proofs.Machine.Stock
import Scriptlet.Proofs.Machine.Telling

/-!
Frames are put into older frames only, as functions are defined in frames that are there.

Main statement: if that is true of all functions that are bound, then evaluation leaves it so, and
with it the frames in layers.
-/

namespace Scriptlet

open Evaluation Value

namespace Heap

variable {heap : Heap} {frame parent : Nat} {name : Name} {value : Value}

/-- Whether frames lie in older ones, and all functions that are bound in frames that are there. -/
structure Orderly (heap : Heap) : Prop where
  /-- Every frame lies in an older one or in none. -/
  layered : heap.Layered
  /-- The frame of a function that is bound somewhere is there. -/
  defined : heap.FitWithin (fun _ => True) fun closure => closure.frame < heap.next

/-- What is bound in a region is fit for anything that fit functions are fit for. -/
theorem FitWithin.mono {region : Nat → Prop} {fit weaker : Closure → Prop}
    (fits : heap.FitWithin region fit) (weaken : ∀ closure, fit closure → weaker closure) :
    heap.FitWithin region weaker :=
  fun frame name value inside found closure member =>
    weaken closure (fits frame name value inside found closure member)

/-- A frame that nothing encloses adds one to the frames. -/
@[simp] theorem next_addRoot : heap.addRoot.next = heap.next + 1 := by
  simp [next, addRoot]

/-- To drop bindings makes no frame and takes none away. -/
@[simp] theorem next_clear : (heap.clear frame).next = heap.next := by
  simp [next, clear]

/-- A frame that nothing encloses changes no bindings, and has none itself. -/
@[simp] theorem find?_addRoot : heap.addRoot.find? frame name = heap.find? frame name := by
  -- The frame is pushed behind the others, so that it is looked up only where it is the last.
  simp only [find?, frame?, addRoot, Array.getElem?_push]
  split
  case isFalse => rfl
  case isTrue last =>
    subst last
    simp [Frame.find?]

/-- What is bound after the bindings of a frame have been dropped was bound before. -/
theorem find?_of_clear {other : Nat} (found : (heap.clear frame).find? other name = some value) :
    heap.find? other name = some value := by
  -- Only the bindings of one frame have been dropped.
  by_cases same : other = frame
  · -- In the frame itself nothing is bound any more.
    subst other
    simp only [find?, frame?, clear, Array.getElem?_modify, if_true] at found
    cases here : heap.frames[frame]? <;> simp [here, Frame.clear, Frame.find?] at found
  · rwa [find?_clear_of_ne heap same] at found

/-- Where there are no frames, they are in order. -/
theorem orderly_empty : Orderly ⟨#[]⟩ :=
  ⟨layered_empty, fun frame name value _ found => by simp [find?, frame?] at found⟩

/-- Order is kept when a frame is made that nothing encloses. -/
theorem Orderly.addRoot (orderly : heap.Orderly) : heap.addRoot.Orderly where
  layered := orderly.layered.addRoot
  defined frame name value _ found closure member := by
    rw [find?_addRoot] at found
    rw [next_addRoot]
    exact Nat.lt_succ_of_lt (orderly.defined frame name value trivial found closure member)

/-- Order is kept when a frame is put into one that is there. -/
theorem Orderly.extend (orderly : heap.Orderly) (there : parent < heap.next) :
    (heap.extend parent).Orderly where
  layered := orderly.layered.extend there
  defined := by
    -- Frames that are there stay when there is one more.
    rw [next_extend]
    exact orderly.defined.extend.mono fun _ => Nat.lt_succ_of_lt

/-- Order is kept when a name is bound to a value whose functions have their frames. -/
theorem Orderly.bind (orderly : heap.Orderly)
    (known : Fits (fun closure => closure.frame < heap.next) value) (frame : Nat) (name : Name) :
    (heap.bind frame name value).Orderly where
  layered := orderly.layered.bind frame name value
  defined := by
    -- To bind makes no frame, and what is bound is known.
    rw [next_bind]
    exact orderly.defined.bind known

/-- Order is kept when bindings are dropped. -/
theorem Orderly.clear (orderly : heap.Orderly) (frame : Nat) : (heap.clear frame).Orderly where
  layered := orderly.layered.clear frame
  defined frame name value _ found closure member := by
    rw [next_clear]
    exact orderly.defined frame name value trivial (find?_of_clear found) closure member

/-- The functions in what is found have their frames. -/
theorem Orderly.lookup (orderly : heap.Orderly) (found : heap.lookup frame name = some value) :
    Fits (fun closure => closure.frame < heap.next) value := by
  -- What is found from a frame is bound in one on the way outwards.
  obtain ⟨frames, chain⟩ := orderly.layered.exists_chain frame
  obtain ⟨_, holder, _, _, here, _⟩ :=
    ((chain.lineage orderly.layered).lookup_eq_some name value).mp found
  exact orderly.defined holder name value trivial here

end Heap

/-- What has come about since the host had been called so often and there were so many frames. -/
def orderlyStock (told : List HostCall) (count : Nat) : Stock where
  frames world frame := frame < world.heap.next
  functions world function :=
    Fits (fun closure => closure.frame < world.heap.next) (.function function)
  holds _ world := world.heap.Orderly ∧ count ≤ world.heap.next ∧
    world.TellsFit (fun closure => closure.frame < world.heap.next) told

section Orderly

variable {told : List HostCall} {count : Nat} {world : World}

/-- A value has come about where its functions have their frames. -/
theorem made_orderlyStock_iff {value : Value} :
    (orderlyStock told count).Made world value ↔
      Fits (fun closure => closure.frame < world.heap.next) value :=
  only_fits_iff value

/-- Values have come about where their functions have their frames. -/
theorem allMade_orderlyStock_iff {values : List Value} :
    (orderlyStock told count).AllMade world values ↔
      AllFit (fun closure => closure.frame < world.heap.next) values :=
  allOnly_fits_iff values

/-- Evaluation keeps the order of frames in all that it does, if the host does. -/
theorem upheld_orderlyStock {context : Context} (loyal :
    context.host.Loyal (fun closure => closure.frame < count) told.length) :
    (orderlyStock told count).Upheld context where
  frames_mono before there := Nat.lt_of_lt_of_le there before.next_le
  functions_mono before known closure member :=
    Nat.lt_of_lt_of_le (known closure member) before.next_le
  builtin := nofun
  noted quiet held := ⟨held.1, held.2.1, held.2.2.note quiet⟩
  lookup _ held found := made_orderlyStock_iff.mpr (held.1.lookup found)
  bind {level world frame name value} made held := by
    -- The host is told nothing by a binding, and the frames stay in order.
    obtain ⟨orderly, more, tells⟩ := held
    refine ⟨?_, by simpa using more, by simpa using tells.bind frame name value⟩
    rw [World.heap_bind]
    exact orderly.bind (made_orderlyStock_iff.mp made) frame name
  counted held := held
  define there _ closure member := by
    -- The function that is made lies in the frame in which it is defined.
    rw [closures, List.mem_singleton] at member
    rwa [member]
  enter _ made held :=
    ⟨held.1, held.2.1, held.2.2.enter _ (allMade_orderlyStock_iff.mp made)⟩
  answered {level world function arguments} _ made held := by
    -- The host knows older functions and those that it has been told of, and their frames are
    -- there.
    obtain ⟨orderly, more, tells⟩ := held
    have fits := allMade_orderlyStock_iff.mp made
    have tells' := tells.enter (.host function) fits
    refine ⟨⟨orderly, more, tells'⟩, fun value answer => made_orderlyStock_iff.mpr ?_⟩
    exact loyal.fits (fun closure known => Nat.lt_of_lt_of_le known more) tells' fits answer
  leave {level world} held := by
    -- To leave a call is no call.
    have tells : { world with depth := world.depth - 1 }.TellsFit
      (fun closure => closure.frame < world.heap.next) told := held.2.2
    exact ⟨held.1, held.2.1, tells.note (by simp)⟩
  extend {level world closure} known held := by
    obtain ⟨orderly, more, tells⟩ := held
    -- The new frame is put into the one of the function, which is there.
    have there : closure.frame < world.heap.next := known closure (by simp [closures])
    refine ⟨⟨orderly.extend there, ?_, ?_⟩, ?_⟩
    · exact Nat.le_trans more (by simp)
    · exact tells.mono fun _ old => by simpa using Nat.lt_succ_of_lt old
    · simp [orderlyStock]

end Orderly

end Scriptlet

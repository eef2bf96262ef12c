import Scriptlet.Machine.World

/-!
Heaps that have grown: there may be new frames and new bindings, and all that was there still is.
-/

namespace Scriptlet

/-- What a list of pairs gives for a key stands in it with that key. -/
theorem mem_of_lookup {α β : Type} [BEq α] [LawfulBEq α] {entries : List (α × β)} {key : α}
    {found : β} (known : entries.lookup key = some found) : (key, found) ∈ entries := by
  -- A lookup parts the list in front of the first pair with the key.
  obtain ⟨front, back, split, -⟩ := List.lookup_eq_some_iff.mp known
  simp [split]

namespace Frame

/-- A frame that binds a name already is not changed by binding it again. -/
theorem bind_of_isSome {frame : Frame} {name : Name} (value : Value)
    (bound : (frame.find? name).isSome = true) : frame.bind name value = frame :=
  if_pos bound

end Frame

namespace Heap

variable (heap : Heap) {frame other parent : Nat} {name : Name} {value : Value}

/-- Binding makes no frames. -/
@[simp] theorem next_bind : (heap.bind frame name value).next = heap.next := by
  simp [next, bind]

/-- A new frame comes behind all others. -/
@[simp] theorem next_extend : (heap.extend parent).next = heap.next + 1 := by
  simp [next, extend]

/-- A frame that is still to come has no bindings. -/
theorem find?_of_next_le (name : Name) (missing : heap.next ≤ frame) :
    heap.find? frame name = none := by
  simp [find?, frame?, Array.getElem?_eq_none missing]

/-- A frame that is still to come is not enclosed. -/
theorem parent?_of_next_le (missing : heap.next ≤ frame) : heap.parent? frame = none := by
  simp [parent?, frame?, Array.getElem?_eq_none missing]

/-- A frame that binds something has come about. -/
theorem lt_next_of_find? (found : heap.find? frame name = some value) : frame < heap.next := by
  -- A frame that is still to come would bind nothing.
  refine Nat.lt_of_not_le fun missing => ?_
  rw [heap.find?_of_next_le name missing] at found
  cases found

/-- The first frame binds nothing, and there is no other. -/
theorem find?_initial (frame : Nat) (name : Name) : Heap.initial.find? frame name = none := by
  cases frame <;> rfl

/-- Nothing encloses the first frame. -/
theorem parent?_initial (frame : Nat) : Heap.initial.parent? frame = none := by
  cases frame <;> rfl

/-- Binding a name is found in its frame, where the first binding of a name stands. -/
theorem find?_bind_self (there : frame < heap.next) :
    (heap.bind frame name value).find? frame name = some ((heap.find? frame name).getD value) := by
  -- The frame is there, so it is the one that is changed.
  have found : heap.frames[frame]? = some heap.frames[frame] := Array.getElem?_eq_getElem there
  simp [find?, frame?, bind, Array.getElem?_modify, found, Frame.find?_bind_self]

/-- Binding a name leaves all other names and frames alone. -/
theorem find?_bind_of_ne {name' : Name} (differ : ¬(other = frame ∧ name' = name)) :
    (heap.bind frame name value).find? other name' = heap.find? other name' := by
  -- Another frame is not touched at all.
  simp only [find?, frame?, bind, Array.getElem?_modify]
  split
  case isFalse => rfl
  case isTrue same =>
    subst other
    -- In the frame itself, it is the name that differs.
    have differ : name' ≠ name := fun same => differ ⟨rfl, same⟩
    cases heap.frames[frame]? with
    | none => rfl
    | some found => simp [Frame.find?_bind_of_ne found name name' value differ]

/-- Putting a frame into another changes no bindings, and the new frame has none. -/
@[simp] theorem find?_extend : (heap.extend parent).find? frame name = heap.find? frame name := by
  -- The new frame has no bindings, and all others are what they have been.
  simp only [find?, frame?, extend, Array.getElem?_push]
  split
  case isFalse => rfl
  case isTrue last =>
    subst last
    simp [Frame.find?]

/-- Dropping the bindings of a frame leaves those of all others. -/
theorem find?_clear_of_ne (differ : other ≠ frame) :
    (heap.clear frame).find? other name = heap.find? other name := by
  -- The frame that is cleared is another one.
  have elsewhere : ¬frame = other := Ne.symm differ
  simp only [find?, frame?, clear, Array.getElem?_modify, if_neg elsewhere]

/-- The new frame lies in the one that it was put into. -/
@[simp] theorem parent?_extend_self : (heap.extend parent).parent? heap.next = some parent := by
  simp [parent?, frame?, extend, next]

/-- Putting a frame into another leaves all others where they are. -/
theorem parent?_extend_of_ne (differ : frame ≠ heap.next) :
    (heap.extend parent).parent? frame = heap.parent? frame := by
  -- An old frame does not stand at the last place.
  have old : ¬frame = heap.frames.size := differ
  simp only [parent?, frame?, extend, Array.getElem?_push, if_neg old]

/-- A binding that leaves the frame as it was, if there is such a frame, leaves the heap as it was. -/
theorem bind_eq_self
    (kept : ∀ here, heap.frame? frame = some here → here.bind name value = here) :
    heap.bind frame name value = heap := by
  unfold bind
  congr 1
  -- Place by place, the only frame that is touched is given back as it was.
  apply Array.ext_getElem?
  intro place
  rw [Array.getElem?_modify]
  split
  case isFalse => rfl
  case isTrue same =>
    subst place
    cases found : heap.frames[frame]? with
    | none => rfl
    | some here => rw [Option.map_some, kept here found]

/-- A heap in which a frame binds a name is not changed by binding it there again. -/
theorem bind_of_binds (bound : heap.binds frame name = true) :
    heap.bind frame name value = heap := by
  refine heap.bind_eq_self fun here found => Frame.bind_of_isSome value ?_
  -- What the heap binds there, the frame itself binds.
  simpa only [binds, find?, found, Option.bind_some] using bound

/-- Whether a heap holds what another one held before, and gained bindings only where it may. -/
structure Grown (gains : Nat → Name → Prop) (before after : Heap) : Prop where
  /-- The frames are still there. -/
  next_le : before.next ≤ after.next
  /-- The frames lie where they lay. -/
  parents : ∀ {frame}, frame < before.next → after.parent? frame = before.parent? frame
  /-- What was bound is bound to the same value. -/
  kept : ∀ {frame name value}, before.find? frame name = some value →
    after.find? frame name = some value
  /-- What is bound anew may be gained. -/
  gained : ∀ {frame name}, frame < before.next → before.binds frame name = false →
    after.binds frame name = true → gains frame name

variable {heap} {before : Heap} {gains : Nat → Name → Prop}

/-- A heap has grown out of itself. -/
theorem Grown.refl (heap : Heap) : Grown gains heap heap where
  next_le := Nat.le_refl _
  parents _ := rfl
  kept := id
  gained _ missing found := by simp [missing] at found

/-- A name that was bound still is. -/
theorem Grown.binds_of_binds (grown : Grown gains before heap)
    (bound : before.binds frame name = true) : heap.binds frame name = true := by
  -- Its value is kept, and so it is still bound.
  obtain ⟨value, found⟩ := Option.isSome_iff_exists.mp bound
  rw [binds, grown.kept found]
  rfl

/-- In an old frame, a grown heap binds just the names that it did, unless it may gain one. -/
theorem Grown.binds_eq (grown : Grown gains before heap) (old : frame < before.next)
    (known : gains frame name → before.binds frame name = true) :
    heap.binds frame name = before.binds frame name := by
  cases bound : before.binds frame name with
  | true => exact grown.binds_of_binds bound
  | false =>
    -- A name that was gained was one that may be gained, so it would have been bound before.
    rw [Bool.eq_false_iff]
    exact fun gained => Bool.eq_false_iff.mp bound (known (grown.gained old bound gained))

/-- What a name is bound to in a frame is the same in a grown heap unless it has been gained. -/
theorem Grown.find?_eq (grown : Grown gains before heap)
    (same : heap.binds frame name = before.binds frame name) :
    heap.find? frame name = before.find? frame name := by
  -- A value is kept, and where there is none there is none afterwards.
  cases found : before.find? frame name with
  | some value => exact grown.kept found
  | none => simpa [binds, found] using same

/-- A grown heap grows by a binding that may be gained or that is in a new frame. -/
theorem Grown.bind (grown : Grown gains before heap)
    (may : before.next ≤ frame ∨ gains frame name) :
    Grown gains before (heap.bind frame name value) where
  next_le := by simpa using grown.next_le
  parents old := by rw [parent?_bind, grown.parents old]
  kept {frame' name' value'} found := by
    have still := grown.kept found
    by_cases same : frame' = frame ∧ name' = name
    · -- A name that is bound again keeps its value.
      obtain ⟨rfl, rfl⟩ := same
      rw [find?_bind_self heap (lt_next_of_find? heap still), still, Option.getD_some]
    · rw [find?_bind_of_ne heap same, still]
  gained {frame' name'} old missing found := by
    by_cases same : frame' = frame ∧ name' = name
    · -- An old frame is not new, so it gains what it may gain.
      obtain ⟨rfl, rfl⟩ := same
      exact may.elim (fun new => by omega) id
    · rw [binds, find?_bind_of_ne heap same] at found
      exact grown.gained old missing found

/-- A grown heap grows by a frame. -/
theorem Grown.extend (grown : Grown gains before heap) :
    Grown gains before (heap.extend parent) where
  next_le := by
    rw [next_extend]
    exact Nat.le_succ_of_le grown.next_le
  parents {frame'} old := by
    have := grown.next_le
    rw [parent?_extend_of_ne heap (by omega), grown.parents old]
  kept found := by rw [find?_extend, grown.kept found]
  gained old missing found := by
    rw [binds, find?_extend] at found
    exact grown.gained old missing found

end Heap

/-- Binding a name in a world is binding it in its heap. -/
@[simp] theorem World.heap_bind (world : World) (frame : Nat) (name : Name) (value : Value) :
    (world.bind frame name value).heap = world.heap.bind frame name value := by
  -- A name that is bound already is not bound again, which changes nothing in the heap either.
  unfold World.bind
  split
  case isFalse => rfl
  case isTrue bound => rw [world.heap.bind_of_binds bound]

/-- A name that is free in a frame is bound there, and that is written down. -/
theorem World.bind_of_free {world : World} {frame : Nat} {name : Name} (value : Value)
    (free : world.heap.binds frame name = false) :
    world.bind frame name value =
      { world with heap := world.heap.bind frame name value }.note (.bound frame name) := by
  rw [World.bind, free, if_neg Bool.false_ne_true]

/-- Binding a name leaves the calls under way. -/
@[simp] theorem World.depth_bind (world : World) (frame : Nat) (name : Name) (value : Value) :
    (world.bind frame name value).depth = world.depth := by
  -- The binding is made or refused, and neither counts a call.
  unfold World.bind
  split <;> rfl

/-- Binding a name leaves the wish to stop. -/
@[simp] theorem World.interrupted_bind (world : World) (frame : Nat) (name : Name) (value : Value) :
    -- Neither way touches the flag.
    (world.bind frame name value).interrupted = world.interrupted := by
  unfold World.bind
  split <;> rfl

/-- Binding a name defines no function. -/
@[simp] theorem World.definitions_bind (world : World) (frame : Nat) (name : Name)
    (value : Value) : (world.bind frame name value).definitions = world.definitions := by
  -- Neither way takes a number.
  unfold World.bind
  split <;> rfl

end Scriptlet

import Scriptlet.Proofs.Heap.Growth

/-!
The frames around a frame, one after the other.

Main statement: in a layered heap they come to an end, and a name has the value that the first of
them binds it to. So binding a name changes what is found from a frame only where that frame lies
within the one that gains the name, and nothing between them binds it.
-/

namespace Scriptlet.Heap

/-- The frames that are met on the way outwards, from a frame to one that nothing encloses. -/
inductive Chain (heap : Heap) : Nat → List Nat → Prop where
  /-- The way ends at a frame that nothing encloses. -/
  | last {frame : Nat} : heap.parent? frame = none → Chain heap frame [frame]
  /-- The way goes on in the frame around. -/
  | inside {frame outer : Nat} {outers : List Nat} : heap.parent? frame = some outer →
      Chain heap outer outers → Chain heap frame (frame :: outers)

variable {heap : Heap} {frame other parent : Nat} {frames others : List Nat} {name : Name}
  {value : Value}

section Layered

/-- A heap without frames is layered. -/
theorem layered_empty : Layered ⟨#[]⟩ :=
  nofun

/-- A layered heap stays layered when a name is bound. -/
theorem Layered.bind (layered : heap.Layered) (frame : Nat) (name : Name) (value : Value) :
    (heap.bind frame name value).Layered := by
  -- Binding leaves every frame where it lies.
  intro frame' outer inside
  rw [parent?_bind] at inside
  exact layered frame' outer inside

/-- Dropping bindings changes no frame's parent. -/
theorem parent?_clear (heap : Heap) (frame other : Nat) :
    (heap.clear frame).parent? other = heap.parent? other := by
  -- The frame that is cleared keeps its parent, and the others are not touched.
  simp only [parent?, frame?, clear, Array.getElem?_modify]
  split
  · cases heap.frames[other]? <;> rfl
  · rfl

/-- A layered heap stays layered when bindings are dropped. -/
theorem Layered.clear (layered : heap.Layered) (frame : Nat) : (heap.clear frame).Layered := by
  intro frame' outer inside
  -- Clearing leaves every frame where it lies.
  rw [parent?_clear] at inside
  exact layered frame' outer inside

/-- A layered heap stays layered when a frame is put into one that is there. -/
theorem Layered.extend (layered : heap.Layered) (there : parent < heap.next) :
    (heap.extend parent).Layered := by
  intro frame outer inside
  by_cases last : frame = heap.next
  · -- The new frame comes behind all others, and so behind the one that it is put into.
    rw [last, parent?_extend_self, Option.some.injEq] at inside
    omega
  · rw [parent?_extend_of_ne heap last] at inside
    exact layered frame outer inside

/-- A frame that nothing encloses has no parent, and leaves all others where they are. -/
theorem parent?_addRoot (heap : Heap) (frame : Nat) :
    heap.addRoot.parent? frame = heap.parent? frame := by
  -- The new frame comes last; all others are where they have been.
  simp only [parent?, frame?, addRoot, Array.getElem?_push]
  split
  case isFalse => rfl
  case isTrue last => simp [last]

/-- A layered heap stays layered when a frame is put in that nothing encloses. -/
theorem Layered.addRoot (layered : heap.Layered) : heap.addRoot.Layered := by
  intro frame outer inside
  -- The new frame lies in none, so there is nothing to ask of it.
  rw [parent?_addRoot] at inside
  exact layered frame outer inside

end Layered

/-- Every frame of a layered heap has a chain. -/
theorem Layered.exists_chain (layered : heap.Layered) (frame : Nat) :
    ∃ frames, heap.Chain frame frames := by
  -- The frame around a frame is an older one, so the way outwards cannot go on for ever.
  induction frame using Nat.strongRecOn with
  | ind frame ih =>
    cases inside : heap.parent? frame with
    | none => exact ⟨[frame], .last inside⟩
    | some outer =>
      obtain ⟨outers, chain⟩ := ih outer (layered frame outer inside)
      exact ⟨frame :: outers, .inside inside chain⟩

namespace Chain

/-- There is one way outwards only. -/
theorem unique (chain : heap.Chain frame frames) (chain' : heap.Chain frame others) :
    others = frames := by
  -- By induction on the first chain: at every frame, both end or both go on outwards.
  induction chain generalizing others with
  | last alone =>
    cases chain' with
    | last => rfl
    | inside inside => simp [alone] at inside
  | inside inside _ ih =>
    cases chain' with
    | last alone => simp [inside] at alone
    | inside inside' chain' =>
      obtain rfl : _ = _ := Option.some.inj (inside.symm.trans inside')
      rw [ih chain']

/-- Frames that lie alike have the same chains. -/
theorem congr {heap' : Heap} (chain : heap.Chain frame frames)
    (parents : ∀ frame, heap'.parent? frame = heap.parent? frame) : heap'.Chain frame frames := by
  -- The way outwards is told by the parents alone.
  induction chain with
  | last alone => exact .last ((parents _).trans alone)
  | inside inside _ ih => exact .inside ((parents _).trans inside) ih

/-- No frame of a chain is newer than the one from which it starts. -/
theorem le_of_mem (chain : heap.Chain frame frames) (layered : heap.Layered)
    (member : other ∈ frames) : other ≤ frame := by
  -- A frame of the chain is its first one, or it stands further out and is older.
  induction chain with
  | last => exact Nat.le_of_eq (List.mem_singleton.mp member)
  | inside inside _ ih =>
    rcases List.mem_cons.mp member with rfl | member
    · exact Nat.le_refl _
    · exact Nat.le_of_lt (Nat.lt_of_le_of_lt (ih member) (layered _ _ inside))

/-- On the way outwards, every frame is older than all before it. -/
theorem pairwise (chain : heap.Chain frame frames) (layered : heap.Layered) :
    frames.Pairwise (· > ·) := by
  -- The first frame is newer than the one around it, and so than all further out.
  induction chain with
  | last => exact List.pairwise_singleton ..
  | inside inside chain ih =>
    refine List.pairwise_cons.mpr ⟨fun other member => ?_, ih⟩
    exact Nat.lt_of_le_of_lt (chain.le_of_mem layered member) (layered _ _ inside)

/-- There are as many frames around a frame as follow it on the way outwards. -/
theorem depth_eq (chain : heap.Chain frame frames) (layered : heap.Layered) :
    heap.depth frame + 1 = frames.length := by
  -- A frame at the end has nothing around it, and every other one has one frame more than the next.
  induction chain with
  | last alone => simp [depth, outer?, alone]
  | @inside frame outer outers inside _ ih =>
    rw [depth, outer?_of_layered heap layered frame outer inside, List.length_cons, ← ih]

/-- A name has the value that is found first on the way outwards. -/
theorem lookup_eq (chain : heap.Chain frame frames) (layered : heap.Layered) (name : Name) :
    heap.lookup frame name = frames.findSome? (heap.find? · name) := by
  -- Either the frame itself binds the name, or the search goes on where the chain does.
  induction chain with
  | @last frame alone =>
    rw [lookup, List.findSome?_singleton]
    cases heap.find? frame name with
    | some value => rfl
    | none => simp [outer?, alone]
  | @inside frame outer outers inside _ ih =>
    rw [lookup, List.findSome?_cons]
    cases heap.find? frame name with
    | some value => rfl
    | none => simpa only [outer?_of_layered heap layered frame outer inside] using ih

/-- After a binding, what is found from a frame is what the same chain gives. -/
theorem lookup_bind_eq (chain : heap.Chain frame frames) (layered : heap.Layered)
    (target : Nat) (bound : Name) (value : Value) :
    (heap.bind target bound value).lookup frame name =
      frames.findSome? ((heap.bind target bound value).find? · name) :=
  (chain.congr fun _ => parent?_bind ..).lookup_eq (layered.bind target bound value) name

end Chain

/-- Nothing is bound in a frame that is not there. -/
theorem bind_of_next_le (missing : heap.next ≤ frame) : heap.bind frame name value = heap := by
  -- Of a frame that is missing there is nothing to show.
  have none : heap.frame? frame = none := Array.getElem?_eq_none missing
  exact heap.bind_eq_self fun here found => nomatch none.symm.trans found

/-- What is found first in a row of frames changes only if the row comes to the new binding. -/
theorem exists_of_findSome?_bind {target : Nat} {bound : Name}
    (differs : frames.findSome? ((heap.bind target bound value).find? · name) ≠
      frames.findSome? (heap.find? · name)) :
    name = bound ∧ heap.find? target bound = none ∧
      (∃ front back, frames = front ++ target :: back ∧
        ∀ passed ∈ front, heap.find? passed bound = none) ∧
      frames.findSome? ((heap.bind target bound value).find? · name) = some value := by
  -- A binding that changes the heap at all is one in a frame that is there and did not bind it.
  have there : target < heap.next := by
    refine Nat.lt_of_not_le fun missing => differs ?_
    rw [bind_of_next_le missing]
  have free : heap.find? target bound = none := by
    refine Option.not_isSome_iff_eq_none.mp fun found => differs ?_
    rw [heap.bind_of_binds found]
  -- By induction on the row, up to the frame that gains the name.
  induction frames with
  | nil => exact absurd rfl differs
  | cons first rest ih =>
    rw [List.findSome?_cons, List.findSome?_cons] at differs
    rw [List.findSome?_cons]
    by_cases same : first = target ∧ name = bound
    · obtain ⟨rfl, rfl⟩ := same
      refine ⟨rfl, free, ⟨[], rest, rfl, nofun⟩, ?_⟩
      rw [find?_bind_self heap there, free]
      rfl
    · -- A frame that does not gain the name is passed over, unless the row ends there as before.
      rw [find?_bind_of_ne heap same] at differs ⊢
      cases here : heap.find? first name with
      | some found => simp [here] at differs
      | none =>
        rw [here] at differs
        obtain ⟨rfl, -, ⟨front, back, rfl, passed⟩, found⟩ := ih differs
        refine ⟨rfl, free, ⟨first :: front, back, rfl, fun other member => ?_⟩, found⟩
        rcases List.mem_cons.mp member with rfl | member
        · exact here
        · exact passed other member

/-- How a frame sees the frames around it. -/
structure Lineage (heap : Heap) (frame : Nat) (frames : List Nat) : Prop where
  /-- They are met on the way outwards, which comes to an end. -/
  chain : heap.Chain frame frames
  /-- There is no other way. -/
  unique : ∀ others, heap.Chain frame others → others = frames
  /-- No frame is met twice, as each is older than those before it. -/
  older : frames.Pairwise (· > ·)
  /-- Of a frame that is there, all of them are there. -/
  there : frame < heap.next → ∀ other ∈ frames, other < heap.next
  /-- The depth counts all of them but the frame itself. -/
  depth_eq : heap.depth frame + 1 = frames.length
  /-- A name has a value if the first of them that binds it binds it to this value. -/
  lookup_eq_some : ∀ name value, heap.lookup frame name = some value ↔
    ∃ front holder back, frames = front ++ holder :: back ∧
      heap.find? holder name = some value ∧ ∀ passed ∈ front, heap.find? passed name = none
  /-- A name has no value if none of them binds it. -/
  lookup_eq_none : ∀ name, heap.lookup frame name = none ↔
    ∀ holder ∈ frames, heap.find? holder name = none
  /-- A binding is noticed only of its own name, in a frame met here that did not bind it yet and
  before which no other does; it is the new value then that is found. -/
  bind : ∀ target bound value name,
    (heap.bind target bound value).lookup frame name ≠ heap.lookup frame name →
      name = bound ∧ heap.find? target bound = none ∧
      (∃ front back, frames = front ++ target :: back ∧
        ∀ passed ∈ front, heap.find? passed bound = none) ∧
      (heap.bind target bound value).lookup frame name = some value

/-- In a layered heap a chain shows all that a frame sees. -/
theorem Chain.lineage (chain : heap.Chain frame frames) (layered : heap.Layered) :
    heap.Lineage frame frames where
  chain := chain
  unique _ := chain.unique
  older := chain.pairwise layered
  there inside other member := Nat.lt_of_le_of_lt (chain.le_of_mem layered member) inside
  depth_eq := chain.depth_eq layered
  lookup_eq_some name value := by rw [chain.lookup_eq layered, List.findSome?_eq_some_iff]
  lookup_eq_none name := by rw [chain.lookup_eq layered, List.findSome?_eq_none_iff]
  bind target bound value name differs := by
    -- What differs is found on the way outwards, before the binding and after it.
    rw [chain.lookup_bind_eq layered, chain.lookup_eq layered] at differs
    rw [chain.lookup_bind_eq layered]
    exact exists_of_findSome?_bind differs

end Scriptlet.Heap

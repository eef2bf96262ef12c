import Scriptlet.Value.Basic

/-!
Frames of bindings, each enclosed by the frame in which its function was defined.

A name that is bound in a frame keeps its value there; other frames may bind it anew.
-/

namespace Scriptlet

/-- A frame of bindings. -/
structure Frame where
  /-- The frame around it, if there is one. -/
  parent : Option Nat
  /-- The bindings, the newest first. -/
  bindings : List (Name × Value)
  deriving DecidableEq, Inhabited

namespace Frame

/-- The value that a frame itself binds to a name. -/
def find? (frame : Frame) (name : Name) : Option Value :=
  frame.bindings.lookup name

/-- Bind a name; a name that is bound already keeps its value. -/
def bind (frame : Frame) (name : Name) (value : Value) : Frame :=
  if (frame.find? name).isSome then frame
  else { frame with bindings := (name, value) :: frame.bindings }

/-- A frame without its bindings. -/
def clear (frame : Frame) : Frame :=
  { frame with bindings := [] }

/-- The first binding of a name stands, and a bound name is found. -/
theorem find?_bind_self (frame : Frame) (name : Name) (value : Value) :
    (frame.bind name value).find? name = some ((frame.find? name).getD value) := by
  cases found : frame.find? name <;> simp [bind, found]
  simp [find?]

/-- Binding a name leaves all others alone. -/
theorem find?_bind_of_ne (frame : Frame) (name other : Name) (value : Value)
    (differ : other ≠ name) : (frame.bind name value).find? other = frame.find? other := by
  cases found : frame.find? name <;> simp [bind, found]
  -- The new binding is the first one, and it is passed over.
  simp [find?, List.lookup_cons, beq_eq_false_iff_ne.mpr differ]

end Frame

/-- All frames that have come about, the oldest first; a frame is known by its place. -/
structure Heap where
  /-- The frames. -/
  frames : Array Frame
  deriving Inhabited

namespace Heap

/-- The heap with one frame that nothing encloses. -/
def initial : Heap :=
  ⟨#[⟨none, []⟩]⟩

/-- The frame at a place. -/
def frame? (heap : Heap) (frame : Nat) : Option Frame :=
  heap.frames[frame]?

/-- The frame that encloses another. -/
def parent? (heap : Heap) (frame : Nat) : Option Nat :=
  (heap.frame? frame).bind Frame.parent

/-- The value that a frame itself binds to a name. -/
def find? (heap : Heap) (frame : Nat) (name : Name) : Option Value :=
  (heap.frame? frame).bind (·.find? name)

/-- Whether a frame itself binds a name. -/
def binds (heap : Heap) (frame : Nat) (name : Name) : Bool :=
  (heap.find? frame name).isSome

/-- The frame that encloses another, which is an older one. -/
def outer? (heap : Heap) (frame : Nat) : Option { outer : Nat // outer < frame } :=
  match heap.parent? frame with
  | none => none
  | some outer => if older : outer < frame then some ⟨outer, older⟩ else none

/-- The value of a name: that of the innermost frame that binds it. -/
def lookup (heap : Heap) (frame : Nat) (name : Name) : Option Value :=
  match heap.find? frame name with
  | some value => some value
  | none =>
    match heap.outer? frame with
    | some ⟨outer, _⟩ => heap.lookup outer name
    | none => none
termination_by frame

/-- The number of frames around a frame. -/
def depth (heap : Heap) (frame : Nat) : Nat :=
  match heap.outer? frame with
  | some ⟨outer, _⟩ => heap.depth outer + 1
  | none => 0
termination_by frame

/-- Bind a name in a frame; a name that is bound there already keeps its value. -/
def bind (heap : Heap) (frame : Nat) (name : Name) (value : Value) : Heap :=
  ⟨heap.frames.modify frame (·.bind name value)⟩

/-- Drop all bindings of a frame. -/
def clear (heap : Heap) (frame : Nat) : Heap :=
  ⟨heap.frames.modify frame Frame.clear⟩

/-- The place of the next frame. -/
def next (heap : Heap) : Nat :=
  heap.frames.size

/-- Put in a new frame that nothing encloses, at the next place. -/
def addRoot (heap : Heap) : Heap :=
  ⟨heap.frames.push ⟨none, []⟩⟩

/-- Put a new frame into another, at the next place. -/
def extend (heap : Heap) (parent : Nat) : Heap :=
  ⟨heap.frames.push ⟨some parent, []⟩⟩

/-- The names that a frame itself binds, in order. -/
def names (heap : Heap) (frame : Nat) : List Name :=
  match heap.frame? frame with
  | some found => Name.sort (found.bindings.map (·.1))
  | none => []

/-- Every frame lies in an older one or in none. -/
def Layered (heap : Heap) : Prop :=
  ∀ frame outer, heap.parent? frame = some outer → outer < frame

/-- In a layered heap the frame around a frame is the one it was put into. -/
theorem outer?_of_layered (heap : Heap) (layered : heap.Layered) (frame outer : Nat)
    (inside : heap.parent? frame = some outer) :
    heap.outer? frame = some ⟨outer, layered frame outer inside⟩ := by
  simp [outer?, inside, layered frame outer inside]

/-- Binding changes no frame's parent. -/
theorem parent?_bind (heap : Heap) (frame other : Nat) (name : Name) (value : Value) :
    (heap.bind frame name value).parent? other = heap.parent? other := by
  simp only [parent?, frame?, bind, Array.getElem?_modify]
  split
  · cases heap.frames[other]? <;> simp [Frame.bind]
    split <;> rfl
  · rfl

end Heap

end Scriptlet

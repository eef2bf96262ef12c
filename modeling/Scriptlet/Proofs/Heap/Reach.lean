import Scriptlet.Proofs.Heap.Growth
import Scriptlet.Proofs.Value.Match

/-!
What can be reached in a heap: through enclosing frames, and through functions that are bound.

A region that nothing leads out of is closed; the frames that are reached are the least such region.
-/

namespace Scriptlet

namespace Value

/-- Whether all functions in a value were defined in a region of frames. -/
def Within (region : Nat → Prop) (value : Value) : Prop :=
  ∀ closure ∈ value.closures, region closure.frame

/-- Whether all functions in some values were defined in a region of frames. -/
def AllWithin (region : Nat → Prop) (values : List Value) : Prop :=
  ∀ closure ∈ allClosures values, region closure.frame

/-- The same function of a script, defined in a region of frames. -/
def closureWithin (region : Nat → Prop) (left right : Closure) : Prop :=
  left = right ∧ region left.frame

/-- The same function, defined in a region of frames if a script has defined it. -/
def functionWithin (region : Nat → Prop) : Function → Function → Prop :=
  Function.Match (closureWithin region) fun _ => True

variable {region : Nat → Prop}

/-- A value made of another one's functions is in a region with it. -/
theorem allWithin_cons {value : Value} {rest : List Value} :
    AllWithin region (value :: rest) ↔ Within region value ∧ AllWithin region rest :=
  allFit_cons

/-- Functions in a region match exactly themselves. -/
theorem functionWithin_iff (f g : Function) :
    functionWithin region f g ↔ f = g ∧ Within region (function f) :=
  sameFit_iff f g

/-- Values with all functions in a region match exactly themselves. -/
theorem match_within_iff (left right : Value) :
    Match (functionWithin region) left right ↔ left = right ∧ Within region left :=
  match_sameFit_iff left right

/-- Values in a row with all functions in a region match exactly themselves. -/
theorem matchAll_within_iff (lefts rights : List Value) :
    MatchAll (functionWithin region) lefts rights ↔ lefts = rights ∧ AllWithin region lefts :=
  matchAll_sameFit_iff lefts rights

end Value

namespace Heap

open Value

/-- The frames that can be reached from others. -/
inductive Reaches (heap : Heap) (roots : Nat → Prop) : Nat → Prop where
  /-- Those from which the search starts. -/
  | root {frame : Nat} : roots frame → Reaches heap roots frame
  /-- The frames that enclose them. -/
  | parent {frame outer : Nat} : Reaches heap roots frame → heap.parent? frame = some outer →
      Reaches heap roots outer
  /-- The frames in which functions were defined that are bound in them, lists included. -/
  | captured {frame : Nat} {name : Name} {value : Value} {closure : Closure} :
      Reaches heap roots frame → heap.find? frame name = some value →
        closure ∈ value.closures → Reaches heap roots closure.frame

/-- Whether neither enclosing frames nor bound functions lead out of a region. -/
structure Closed (heap : Heap) (region : Nat → Prop) : Prop where
  /-- The frame that encloses a frame in the region is in it. -/
  parents : ∀ {frame outer}, region frame → heap.parent? frame = some outer → region outer
  /-- The functions that are bound in the region were defined in it. -/
  values : ∀ {frame name value}, region frame → heap.find? frame name = some value →
    Within region value

/-- Whether a function of a script is bound where it can be reached, lists included. -/
def Reached (heap : Heap) (roots : Nat → Prop) (closure : Closure) : Prop :=
  ∃ frame name value, heap.Reaches roots frame ∧ heap.find? frame name = some value ∧
    closure ∈ value.closures

/-- Whether all functions of scripts that are bound in a region are fit. -/
def FitWithin (heap : Heap) (region : Nat → Prop) (fit : Closure → Prop) : Prop :=
  ∀ frame name value, region frame → heap.find? frame name = some value → Fits fit value

/-- What can be reached, and all frames that are still to come. -/
def scope (heap : Heap) (roots : Nat → Prop) (frame : Nat) : Prop :=
  heap.Reaches roots frame ∨ heap.next ≤ frame

variable {heap : Heap} {region roots : Nat → Prop} {frame parent : Nat} {name : Name}
  {value : Value}

/-- What can be reached lies in every closed region from which the search starts. -/
theorem Closed.of_reaches (closed : heap.Closed region) (inside : ∀ frame, roots frame →
    region frame) (reached : heap.Reaches roots frame) : region frame := by
  -- By induction on how the frame is reached.
  induction reached with
  | root start => exact inside _ start
  | parent _ outside ih => exact closed.parents ih outside
  | captured _ found member ih => exact closed.values ih found _ member

/-- Nothing leads out of what can be reached. -/
theorem closed_scope (heap : Heap) (roots : Nat → Prop) : heap.Closed (heap.scope roots) where
  parents {frame outer} reached inside := by
    -- What is reached leads on to what is reached; a frame still to come leads nowhere.
    rcases reached with reached | new
    · exact .inl (.parent reached inside)
    · rw [heap.parent?_of_next_le new] at inside
      cases inside
  values {frame name value} reached found closure member := by
    -- A frame still to come binds nothing.
    rcases reached with reached | new
    · exact .inl (.captured reached found member)
    · rw [heap.find?_of_next_le name new] at found
      cases found

/-- A function that can be reached was defined in a frame that can be. -/
theorem Reached.scope {closure : Closure} (reached : heap.Reached roots closure) :
    -- It is bound in a frame that is reached.
    heap.scope roots closure.frame := by
  obtain ⟨holder, name, value, holding, found, member⟩ := reached
  exact .inl (.captured holding found member)

/-- What is bound after a binding was bound before, or has just been bound. -/
theorem find?_of_bind {frame' : Nat} {name' : Name} {value' : Value}
    (found : (heap.bind frame name value).find? frame' name' = some value') :
    heap.find? frame' name' = some value' ∨ value' = value := by
  by_cases same : frame' = frame ∧ name' = name
  · obtain ⟨rfl, rfl⟩ := same
    have there := lt_next_of_find? _ found
    rw [next_bind] at there
    rw [find?_bind_self heap there, Option.some.injEq] at found
    -- The first binding stands: either it was there before, or it is the new one.
    cases before : heap.find? frame' name' with
    | none =>
      rw [before] at found
      exact .inr found.symm
    | some value' =>
      rw [before] at found
      exact .inl (congrArg some found)
  · rw [find?_bind_of_ne heap same] at found
    exact .inl found

/-- A frame is enclosed by the one in which lookup goes on. -/
theorem parent?_of_outer? {outer : Nat} {older : outer < frame}
    (found : heap.outer? frame = some ⟨outer, older⟩) : heap.parent? frame = some outer := by
  -- There is an outer frame only where the parent is older.
  unfold outer? at found
  split at found
  case h_1 => cases found
  case h_2 outer' inside =>
    split at found
    · rw [Option.some.injEq, Subtype.mk.injEq] at found
      rw [inside, found]
    · cases found

/-- What is found from within a closed region is bound in a frame of it. -/
theorem Closed.find?_of_lookup (closed : heap.Closed region) (inside : region frame)
    (found : heap.lookup frame name = some value) :
    ∃ holder, region holder ∧ heap.find? holder name = some value := by
  -- Every step outwards stays in the region.
  induction frame using Nat.strongRecOn with
  | ind frame ih =>
    rw [Heap.lookup] at found
    cases here : heap.find? frame name with
    | some value' =>
      simp only [here, Option.some.injEq] at found
      subst found
      exact ⟨frame, inside, here⟩
    | none =>
      cases around : heap.outer? frame with
      | none => simp [here, around] at found
      | some outer =>
        simp only [here, around] at found
        exact ih outer.1 outer.2 (closed.parents inside (parent?_of_outer? around)) found

/-- What is bound in a region stays fit when something fit is bound. -/
theorem FitWithin.bind {fit : Closure → Prop} (fits : heap.FitWithin region fit)
    (known : Fits fit value) : (heap.bind frame name value).FitWithin region fit := by
  -- The value was there before, or it is the new one.
  intro frame' name' value' inside found
  rcases find?_of_bind found with before | rfl
  · exact fits frame' name' value' inside before
  · exact known

/-- What is bound in a region stays fit when a frame is put into another. -/
theorem FitWithin.extend {fit : Closure → Prop} (fits : heap.FitWithin region fit) :
    (heap.extend parent).FitWithin region fit := by
  -- A new frame binds nothing.
  intro frame' name' value' inside found
  rw [find?_extend] at found
  exact fits frame' name' value' inside found

/-- A region stays closed when a function defined in it is bound. -/
theorem Closed.bind (closed : heap.Closed region) (inside : Within region value) :
    (heap.bind frame name value).Closed region where
  parents reached outside := closed.parents reached (by rwa [parent?_bind] at outside)
  values reached found :=
    FitWithin.bind (fun _ _ _ => closed.values) inside _ _ _ reached found

/-- A region stays closed when a frame is put into a frame of it. -/
theorem Closed.extend (closed : heap.Closed region) (inside : region parent) :
    (heap.extend parent).Closed region where
  parents {frame outer} reached outside := by
    -- The new frame lies in the given one, and all others lie where they have been.
    by_cases last : frame = heap.next
    · subst last
      rw [parent?_extend_self, Option.some.injEq] at outside
      rwa [← outside]
    · rw [parent?_extend_of_ne heap last] at outside
      exact closed.parents reached outside
  values reached found := FitWithin.extend (fun _ _ _ => closed.values) _ _ _ reached found

/-- What is found from within a closed region was defined in it. -/
theorem Closed.lookup (closed : heap.Closed region) (inside : region frame)
    (found : heap.lookup frame name = some value) : Within region value := by
  -- The frame that binds the name lies in the region as well.
  obtain ⟨holder, reached, here⟩ := closed.find?_of_lookup inside found
  exact closed.values reached here

section Congruence

variable {heap' : Heap}

/-- What heaps bind alike they still do when the same is bound in both. -/
theorem find?_bind_congr (next_eq : heap.next = heap'.next) {other : Nat} {name' : Name}
    (before : heap.find? other name' = heap'.find? other name') :
    (heap.bind frame name value).find? other name' =
      (heap'.bind frame name value).find? other name' := by
  by_cases same : other = frame ∧ name' = name
  · obtain ⟨rfl, rfl⟩ := same
    -- What is bound in a frame that is not there is bound in neither heap.
    by_cases there : other < heap.next
    · rw [find?_bind_self heap there, find?_bind_self heap' (next_eq ▸ there), before]
    · rw [find?_of_next_le _ _ (by rw [next_bind]; omega),
        find?_of_next_le _ _ (by rw [next_bind, ← next_eq]; omega)]
  · rw [find?_bind_of_ne heap same, find?_bind_of_ne heap' same, before]

/-- Frames that lie alike still do when frames are put into the same one in both heaps. -/
theorem parent?_extend_congr (next_eq : heap.next = heap'.next)
    (before : ∀ frame, heap.parent? frame = heap'.parent? frame) (frame : Nat) :
    (heap.extend parent).parent? frame = (heap'.extend parent).parent? frame := by
  -- The new frame is the same one in both heaps.
  by_cases last : frame = heap.next
  · rw [last, parent?_extend_self, next_eq, parent?_extend_self]
  · rw [parent?_extend_of_ne heap last, parent?_extend_of_ne heap' (next_eq ▸ last), before]

/-- A name has the same value where frames lie alike and bind it alike, all the way outwards. -/
theorem lookup_congr
    (outward : ∀ {frame outer}, region frame → heap.parent? frame = some outer → region outer)
    (parents : ∀ frame, heap.parent? frame = heap'.parent? frame)
    (same : ∀ {frame}, region frame → heap.find? frame name = heap'.find? frame name)
    (inside : region frame) : heap.lookup frame name = heap'.lookup frame name := by
  -- Lookup takes the same steps outwards in both heaps, and stays in the region.
  induction frame using Nat.strongRecOn with
  | ind frame ih =>
    have around : heap.outer? frame = heap'.outer? frame := by
      unfold outer?
      rw [parents]
    rw [Heap.lookup, Heap.lookup, ← same inside, ← around]
    cases heap.find? frame name with
    | some value => rfl
    | none =>
      cases outside : heap.outer? frame with
      | none => rfl
      | some outer => exact ih outer.1 outer.2 (outward inside (parent?_of_outer? outside))

end Congruence

/-- Whether two heaps differ at most in what frames outside a region bind. -/
structure Agree (region : Nat → Prop) (heap heap' : Heap) : Prop where
  /-- There are as many frames. -/
  next_eq : heap.next = heap'.next
  /-- The frames lie in each other alike. -/
  parent?_eq : ∀ frame, heap.parent? frame = heap'.parent? frame
  /-- In the region, frames bind the same names to the same values. -/
  find?_eq : ∀ {frame}, region frame → ∀ name, heap.find? frame name = heap'.find? frame name

variable {heap' : Heap}

/-- Heaps that agree on what can be reached agree on frames still to come as well. -/
theorem Agree.scope (agree : Agree (heap.Reaches roots) heap heap') :
    Agree (heap.scope roots) heap heap' where
  next_eq := agree.next_eq
  parent?_eq := agree.parent?_eq
  find?_eq inside name := inside.elim (fun reached => agree.find?_eq reached name) fun new => by
    rw [heap.find?_of_next_le name new, heap'.find?_of_next_le name (agree.next_eq ▸ new)]

/-- Heaps that agree still do when the same is bound in both. -/
theorem Agree.bind (agree : Agree region heap heap') (frame : Nat) (name : Name) (value : Value) :
    Agree region (heap.bind frame name value) (heap'.bind frame name value) where
  next_eq := by simpa using agree.next_eq
  parent?_eq other := by rw [parent?_bind, parent?_bind, agree.parent?_eq]
  find?_eq reached name' := find?_bind_congr agree.next_eq (agree.find?_eq reached name')

/-- Heaps that agree still do when frames are put into the same one in both. -/
theorem Agree.extend (agree : Agree region heap heap') (parent : Nat) :
    Agree region (heap.extend parent) (heap'.extend parent) where
  next_eq := by simpa using agree.next_eq
  parent?_eq := parent?_extend_congr agree.next_eq agree.parent?_eq
  find?_eq inside name := by rw [find?_extend, find?_extend, agree.find?_eq inside]

/-- From within a closed region on which heaps agree, names have the same values in both. -/
theorem Agree.lookup_eq (agree : Agree region heap heap') (closed : heap.Closed region)
    (inside : region frame) (name : Name) : heap.lookup frame name = heap'.lookup frame name :=
  lookup_congr closed.parents agree.parent?_eq (fun reached => agree.find?_eq reached name) inside

end Heap

end Scriptlet

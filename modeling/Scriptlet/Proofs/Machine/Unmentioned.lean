import Scriptlet.Proofs.Expr.Mention
import Scriptlet.Proofs.Machine.Validity

/-!
Names that nothing mentions make no difference.

Main statement: two worlds that differ only in what one frame binds to hidden names take the same
course, as long as neither the expression nor any function in reach mentions a hidden name.
-/

namespace Scriptlet

open Evaluation Value Heap

/-- Whether two worlds are the same but for what a frame binds to hidden names, and for what has
been written down apart from the calls of the host. -/
structure World.SameBut (place : Nat) (hidden : Name → Prop) (world world' : World) : Prop where
  /-- The frame is there. -/
  there : place < world.heap.next
  /-- There are as many frames. -/
  next_eq : world.heap.next = world'.heap.next
  /-- The frames lie in each other alike. -/
  parent?_eq : ∀ frame, world.heap.parent? frame = world'.heap.parent? frame
  /-- Other names are bound alike, and so are all names in other frames. -/
  find?_eq : ∀ {frame name}, frame ≠ place ∨ ¬hidden name →
    world.heap.find? frame name = world'.heap.find? frame name
  /-- As many calls are under way. -/
  depth_eq : world.depth = world'.depth
  /-- Both are asked to stop or neither is. -/
  interrupted_eq : world.interrupted = world'.interrupted
  /-- As many functions have been defined. -/
  definitions_eq : world.definitions = world'.definitions
  /-- The host has been called alike. -/
  hostCalls_eq : world.hostCalls = world'.hostCalls

namespace World.SameBut

variable {place : Nat} {hidden : Name → Prop} {world world' : World} {frame : Nat} {name : Name}

/-- Worlds stay the same but for hidden names when the same happens in both. -/
theorem note (same : World.SameBut place hidden world world') (happening : Happening) :
    World.SameBut place hidden (world.note happening) (world'.note happening) where
  there := same.there
  next_eq := same.next_eq
  parent?_eq := same.parent?_eq
  find?_eq := same.find?_eq
  depth_eq := same.depth_eq
  interrupted_eq := same.interrupted_eq
  definitions_eq := same.definitions_eq
  hostCalls_eq := by
    rw [hostCalls_note, hostCalls_note, same.hostCalls_eq, same.depth_eq, same.interrupted_eq]

/-- What is not hidden is bound in both worlds or in neither. -/
theorem binds_eq (same : World.SameBut place hidden world world')
    (seen : frame ≠ place ∨ ¬hidden name) :
    world.heap.binds frame name = world'.heap.binds frame name := by
  -- What a frame binds is told by what is found in it.
  rw [binds, binds, same.find?_eq seen]

/-- A name that is not hidden has the same value in both worlds. -/
theorem lookup_eq (same : World.SameBut place hidden world world') (seen : ¬hidden name)
    (frame : Nat) : world.heap.lookup frame name = world'.heap.lookup frame name :=
  lookup_congr (fun _ _ => True.intro) same.parent?_eq (fun _ => same.find?_eq (.inr seen))
    True.intro

/-- Worlds stay the same when a name that is not hidden there is bound alike in both. -/
theorem bind (same : World.SameBut place hidden world world') (seen : frame ≠ place ∨ ¬hidden name)
    (value : Value) :
    World.SameBut place hidden (world.bind frame name value) (world'.bind frame name value) := by
  -- Both bind the name, or neither does.
  unfold World.bind
  rw [same.binds_eq seen]
  split
  -- Where the name is bound already, nothing happens in either world.
  · exact same
  · refine World.SameBut.note ?_ (.bound frame name)
    exact { same with
      there := by simpa using same.there
      next_eq := by simpa using same.next_eq
      parent?_eq := fun other => by
        simpa only [parent?_bind] using same.parent?_eq other
      find?_eq := fun seen => find?_bind_congr same.next_eq (same.find?_eq seen) }

/-- Worlds stay the same but for hidden names when a frame is put into the same one in both. -/
theorem extend (same : World.SameBut place hidden world world') (parent : Nat) :
    World.SameBut place hidden { world with heap := world.heap.extend parent }
      { world' with heap := world'.heap.extend parent } :=
  { same with
    there := by
      rw [next_extend]
      exact Nat.lt_succ_of_lt same.there
    next_eq := by simpa using same.next_eq
    parent?_eq := parent?_extend_congr same.next_eq same.parent?_eq
    find?_eq := fun seen => by simpa only [find?_extend] using same.find?_eq seen }

end World.SameBut

/-- Whether a function was defined in a region of frames and its body mentions no hidden name. -/
def Closure.SilentIn (region : Nat → Prop) (hidden : Name → Prop) (closure : Closure) : Prop :=
  region closure.frame ∧ closure.body.Silent hidden

/-- Whether the same has been written down in two worlds since two others. -/
def World.SameSince (start start' world world' : World) : Prop :=
  ∃ since, world.journal = since ++ start.journal ∧ world'.journal = since ++ start'.journal

/-- The same has been written down still when the same happens in both worlds. -/
theorem World.SameSince.note {start start' world world' : World}
    (wrote : World.SameSince start start' world world') (depth_eq : world.depth = world'.depth)
    (interrupted_eq : world.interrupted = world'.interrupted) (happening : Happening) :
    World.SameSince start start' (world.note happening) (world'.note happening) := by
  -- What is written down tells of depth and of the wish to stop, which are the same.
  obtain ⟨since, first, second⟩ := wrote
  refine ⟨⟨happening, world.depth, world.interrupted⟩ :: since, ?_, ?_⟩
  · simp only [World.note, first, List.cons_append]
  · simp only [World.note, second, List.cons_append, depth_eq, interrupted_eq]

/-- Whether two worlds are the same but for hidden names after two runs that took the same course,
with nothing in reach that mentions a hidden name. -/
structure World.Veiled (place : Nat) (hidden : Name → Prop) (region : Nat → Prop)
    (start start' world world' : World) : Prop where
  /-- They are the same but for the hidden names. -/
  same : World.SameBut place hidden world world'
  /-- What is in reach mentions no hidden name. -/
  sound : World.Sound region (Closure.SilentIn region hidden) start world
  /-- The same has been written down in both since the start. -/
  since : World.SameSince start start' world world'
  /-- The hidden names are bound as they were. -/
  kept : ∀ name, hidden name →
    world.heap.find? place name = start.heap.find? place name ∧
      world'.heap.find? place name = start'.heap.find? place name

namespace World.Veiled

variable {place : Nat} {hidden : Name → Prop} {region : Nat → Prop}
  {start start' world world' : World} {frame : Nat} {name : Name}
  (veiled : Veiled place hidden region start start' world world')

include veiled

/-- Worlds stay veiled when something happens in both that is no call. -/
theorem note {happening : Happening}
    (quiet : ∀ function arguments, happening ≠ .entered function arguments) :
    Veiled place hidden region start start' (world.note happening) (world'.note happening) where
  same := veiled.same.note happening
  sound := veiled.sound.note quiet
  since := veiled.since.note veiled.same.depth_eq veiled.same.interrupted_eq happening
  kept := veiled.kept

/-- Worlds stay veiled when a function is entered in both. -/
theorem enter (function : Function) {arguments : List Value}
    (fits : AllFit (Closure.SilentIn region hidden) arguments) :
    Veiled place hidden region start start' (world.enter function arguments)
      (world'.enter function arguments) := by
  -- The call is counted before it is written down.
  have depth_eq : world.depth + 1 = world'.depth + 1 := congrArg (· + 1) veiled.same.depth_eq
  have same : World.SameBut place hidden { world with depth := world.depth + 1 }
      { world' with depth := world'.depth + 1 } := { veiled.same with depth_eq }
  refine ⟨same.note _, ?_, ?_, veiled.kept⟩
  · obtain ⟨older, closed, values, tells⟩ := veiled.sound
    exact ⟨older, closed, values, World.TellsFit.enter tells function fits⟩
  · have since : World.SameSince start start' { world with depth := world.depth + 1 }
        { world' with depth := world'.depth + 1 } := veiled.since
    exact since.note depth_eq veiled.same.interrupted_eq _

/-- Worlds stay veiled when a call is left in both. -/
theorem leave :
    Veiled place hidden region start start' (afterCall world) (afterCall world') := by
  -- Depths are compared first, for they are written down with what happens.
  have depth_eq : world.depth - 1 = world'.depth - 1 := congrArg (· - 1) veiled.same.depth_eq
  have same : World.SameBut place hidden { world with depth := world.depth - 1 }
      { world' with depth := world'.depth - 1 } := { veiled.same with depth_eq }
  refine ⟨same.note .left, veiled.sound.afterCall, ?_, veiled.kept⟩
  have since : World.SameSince start start' { world with depth := world.depth - 1 }
      { world' with depth := world'.depth - 1 } := veiled.since
  exact since.note depth_eq veiled.same.interrupted_eq .left

/-- Worlds stay veiled when a name that is not hidden there is bound alike in both. -/
theorem bind (seen : frame ≠ place ∨ ¬hidden name) {value : Value}
    (fits : Fits (Closure.SilentIn region hidden) value) :
    Veiled place hidden region start start' (world.bind frame name value)
      (world'.bind frame name value) where
  same := veiled.same.bind seen value
  sound := veiled.sound.bind (fun _ silent => silent.1) fits frame name
  since := by
    unfold World.bind
    rw [veiled.same.binds_eq seen]
    split
    · exact veiled.since
    · exact World.SameSince.note veiled.since veiled.same.depth_eq veiled.same.interrupted_eq
        (.bound frame name)
  kept other hides := by
    -- Where a hidden name may be bound, it is not the one that matters here.
    have elsewhere : ¬(place = frame ∧ other = name) := by
      rintro ⟨rfl, rfl⟩
      exact seen.elim (fun differ => differ rfl) fun shows => shows hides
    rw [heap_bind, heap_bind, find?_bind_of_ne _ elsewhere, find?_bind_of_ne _ elsewhere]
    exact veiled.kept other hides

/-- Worlds stay veiled when a frame is put into one of the region in both. -/
theorem extend (inside : region frame) :
    Veiled place hidden region start start' { world with heap := world.heap.extend frame }
      { world' with heap := world'.heap.extend frame } where
  same := veiled.same.extend frame
  sound := veiled.sound.extend inside
  since := veiled.since
  kept name hides := by
    rw [find?_extend, find?_extend]
    exact veiled.kept name hides

end World.Veiled

section Simulation

variable (place : Nat) (hidden : Name → Prop) (region : Nat → Prop) (start start' : World)

/-- What corresponds in worlds that differ in hidden names. -/
def veil : Relations where
  excused _ := False
  worlds _ := World.Veiled place hidden region start start'
  closures left right := left = right ∧ left.SilentIn region hidden
  natives _ := True
  admits expr frame frame' := frame = frame' ∧ region frame ∧ expr.Silent hidden
  writes name frame frame' := frame = frame' ∧ (frame ≠ place ∨ ¬hidden name)

variable {place hidden region start start'} {left right : Context}

/-- What evaluation does in a world, it does in one that differs in hidden names. -/
theorem veil_simulation {known : Closure → Prop}
    (tolerance_eq : left.settings.tolerance = right.settings.tolerance)
    (places_eq : left.settings.places = right.settings.places)
    (maxDepth_eq : left.settings.maxDepth = right.settings.maxDepth)
    (host_eq : left.host = right.host)
    (loyal : left.host.Loyal known start.hostCalls.length)
    (trusted : ∀ closure, known closure → closure.SilentIn region hidden)
    (later : ∀ frame, start.heap.next ≤ frame → region frame) :
    Simulation (veil place hidden region start start') left right where
  tolerance_eq := tolerance_eq
  places_eq := places_eq
  alike same := by
    obtain ⟨rfl, -⟩ := same
    exact ⟨rfl, rfl, rfl, rfl⟩
  one_to_one same same' := by
    obtain ⟨rfl, -⟩ := same
    obtain ⟨rfl, -⟩ := same'
    exact Iff.rfl
  part admitted _ member := ⟨admitted.1, admitted.2.1, admitted.2.2.part member⟩
  -- Names that are bound are mentioned, so that they are not hidden in any frame.
  target admitted := by
    obtain ⟨same, -, silent⟩ := admitted
    exact ⟨same, .inr (Expr.Silent.symbol_iff.mp (silent.part List.mem_cons_self))⟩
  callee admitted := by
    obtain ⟨same, inside, silent⟩ := admitted
    exact ⟨same, inside, Expr.Silent.symbol_iff.mpr (silent.of_token (.inl rfl))⟩
  named admitted := ⟨admitted.1, .inr (admitted.2.2.of_token (.inr rfl))⟩
  noted happening quiet veiled := veiled.note quiet
  stops veiled := .inl veiled.same.interrupted_eq
  room veiled := by
    refine .inl ?_
    simp only [Context.full?, maxDepth_eq, veiled.same.depth_eq]
  lookup {level world world' name frame frame'} admitted veiled := by
    obtain ⟨rfl, inside, silent⟩ := admitted
    -- The lookup may go as far as the root, and still finds the same there.
    rw [← veiled.same.lookup_eq (Expr.Silent.symbol_iff.mp silent)]
    cases found : world.heap.lookup frame name with
    | none => exact .none
    | some value =>
      exact .some ((match_sameFit_iff value value).mpr ⟨rfl, veiled.sound.lookup inside found⟩)
  binds_eq admitted veiled := by
    obtain ⟨rfl, seen⟩ := admitted
    exact veiled.same.binds_eq seen
  bind admitted same veiled := by
    obtain ⟨rfl, seen⟩ := admitted
    obtain ⟨rfl, fits⟩ := (match_sameFit_iff _ _).mp same
    exact veiled.bind seen fits
  define admitted shaped _ _ veiled := by
    obtain ⟨rfl, inside, silent⟩ := admitted
    rw [veiled.same.definitions_eq]
    exact ⟨rfl, inside, silent.body shaped⟩
  counted veiled :=
    { veiled with
      same := { veiled.same with definitions_eq := congrArg (· + 1) veiled.same.definitions_eq }
      sound := ⟨veiled.sound.older, veiled.sound.closed, veiled.sound.values, veiled.sound.tells⟩ }
  enter {level world world' function function' arguments arguments'} same sames veiled := by
    obtain ⟨equal, -⟩ := (sameFit_iff function _).mp same
    obtain ⟨rfl, fits⟩ := (matchAll_sameFit_iff arguments _).mp sames
    rw [← equal]
    exact veiled.enter function fits
  leave veiled := veiled.leave
  extend same veiled := by
    obtain ⟨rfl, inside, -⟩ := same
    exact veiled.extend inside
  inside {level world world' c c'} same veiled := by
    obtain ⟨rfl, -, silent⟩ := same
    -- A new frame is not the one in which the hidden names are bound.
    have fresh : world.heap.next ≠ place := Nat.ne_of_gt veiled.same.there
    exact ⟨⟨veiled.same.next_eq, later _ veiled.sound.older, silent⟩,
      fun _ _ => ⟨veiled.same.next_eq, .inl fresh⟩⟩
  asked _ veiled :=
    { veiled with
      same := { veiled.same with interrupted_eq := rfl }
      sound := ⟨veiled.sound.older, veiled.sound.closed, veiled.sound.values, veiled.sound.tells⟩ }
  host {level world world' function arguments arguments'} _ sames veiled := by
    obtain ⟨rfl, fits⟩ := (matchAll_sameFit_iff arguments _).mp sames
    rw [← host_eq, ← veiled.same.hostCalls_eq]
    -- The host has been told the same in both runs, so that it answers the same.
    exact ⟨rfl, .refl fun value answered => (match_sameFit_iff value value).mpr
      ⟨rfl, loyal.fits trusted veiled.sound.tells fits answered⟩⟩

end Simulation

end Scriptlet

import Scriptlet.Proofs.Machine.Numbering

/-!
The same happens again.

Main statement: an evaluation that starts from a later world goes as it did before, if all that is
bound in a region still is what it was. The functions and frames that come about have later numbers
then, and that is all the difference.
-/

namespace Scriptlet

open Evaluation Value Heap

/-- The number that something has on the second of two runs, given its number on the first one.

What was there when the first run started keeps its number; all else is counted from the start. -/
def renumber (start start' number : Nat) : Nat :=
  if number < start then number else number - start + start'

section Renumber

variable {start start' number other : Nat}

/-- What was there when the first run started keeps its number. -/
theorem renumber_of_lt (old : number < start) : renumber start start' number = number :=
  if_pos old

/-- What comes later comes later on both runs. -/
theorem le_renumber (new : start ≤ number) : start' ≤ renumber start start' number := by
  -- It is not among the numbers that are kept.
  rw [renumber, if_neg (by omega)]
  omega

/-- The first new number of the one run goes with the first new number of the other. -/
theorem renumber_start : renumber start start' start = start' := by
  simp [renumber]

/-- The next number on the one run goes with the next one on the other. -/
theorem renumber_succ (new : start ≤ number) :
    renumber start start' (number + 1) = renumber start start' number + 1 := by
  -- Neither number is among those that are kept.
  unfold renumber
  rw [if_neg (by omega), if_neg (by omega)]
  omega

/-- The order of numbers is the same on both runs. -/
theorem renumber_lt_iff (later : start ≤ start') :
    renumber start start' number < renumber start start' other ↔ number < other := by
  -- Both, one or none of the numbers may be kept.
  unfold renumber
  split <;> split <;> omega

/-- Different numbers are different on both runs. -/
theorem renumber_inj (later : start ≤ start') :
    renumber start start' number = renumber start start' other ↔ number = other := by
  unfold renumber
  split <;> split <;> omega

end Renumber

/-- What a function is on the second of two runs. -/
def Closure.again (start start' : World) (closure : Closure) : Closure :=
  { closure with
    id := renumber start.definitions start'.definitions closure.id
    frame := renumber start.heap.next start'.heap.next closure.frame }

/-- Whether the frames of a region are the same on two runs, but for the numbers of later ones. -/
structure Heap.Again (region : Nat → Prop) (functions : Function → Function → Prop)
    (start start' : Nat) (heap heap' : Heap) : Prop where
  /-- Frames have come about since the first run started. -/
  next_le : start ≤ heap.next
  /-- As many frames have come about on both runs. -/
  next_eq : heap'.next = renumber start start' heap.next
  /-- Enclosing frames are in the region. -/
  parents : ∀ {frame outer}, region frame → heap.parent? frame = some outer → region outer
  /-- The frames of the region lie in each other alike. -/
  parent?_eq : ∀ {frame}, region frame →
    heap'.parent? (renumber start start' frame) = (heap.parent? frame).map (renumber start start')
  /-- The frames of the region bind the same. -/
  find?_rel : ∀ {frame}, region frame → ∀ name, Option.Rel (Match functions)
    (heap.find? frame name) (heap'.find? (renumber start start' frame) name)

namespace Heap.Again

variable {region : Nat → Prop} {functions : Function → Function → Prop} {start start' : Nat}
  {heap heap' : Heap} {frame : Nat}

/-- A frame binds a name on both runs or on neither. -/
theorem binds_eq (same : Heap.Again region functions start start' heap heap')
    (inside : region frame) (name : Name) :
    heap.binds frame name = heap'.binds (renumber start start' frame) name := by
  -- It has values on both sides that match, or none on either.
  unfold Heap.binds
  rcases rel_cases (same.find?_rel inside name) with
    ⟨missing, missing'⟩ | ⟨value, value', found, found', -⟩
  · rw [missing, missing']
  · rw [found, found']
    rfl

/-- A name has the same value on both runs, or none. -/
theorem lookup_rel (later : start ≤ start')
    (same : Heap.Again region functions start start' heap heap') (inside : region frame)
    (name : Name) : Option.Rel (Match functions) (heap.lookup frame name)
      (heap'.lookup (renumber start start' frame) name) := by
  -- Lookup takes the same steps outwards on both runs.
  induction frame using Nat.strongRecOn with
  | ind frame ih =>
    rw [Heap.lookup, Heap.lookup]
    rcases rel_cases (same.find?_rel inside name) with
      ⟨missing, missing'⟩ | ⟨value, value', found, found', matched⟩
    · rw [missing, missing']
      unfold outer?
      rw [same.parent?_eq inside]
      cases around : heap.parent? frame with
      | none => exact .none
      | some outer =>
        simp only [Option.map_some]
        -- Numbers keep their order, so the frame around is older on both runs or on neither.
        by_cases older : outer < frame
        · rw [dif_pos older, dif_pos ((renumber_lt_iff later).mpr older)]
          exact ih outer older (same.parents inside around)
        · rw [dif_neg older, dif_neg (mt (renumber_lt_iff later).mp older)]
          exact .none
    · rw [found, found']
      exact .some matched

/-- The runs still do the same when the same is bound on both. -/
theorem bind {value value' : Value} (later : start ≤ start')
    (same : Heap.Again region functions start start' heap heap')
    (matched : Match functions value value') (frame : Nat) (name : Name) :
    Heap.Again region functions start start' (heap.bind frame name value)
      (heap'.bind (renumber start start' frame) name value') where
  next_le := by simpa using same.next_le
  next_eq := by simpa using same.next_eq
  parents inside around := same.parents inside (by rwa [parent?_bind] at around)
  parent?_eq inside := by rw [parent?_bind, parent?_bind, same.parent?_eq inside]
  find?_rel {other} inside name' := by
    have before := same.find?_rel inside name'
    -- Only where the binding takes place on the one run does it on the other.
    by_cases here : other = frame ∧ name' = name
    · obtain ⟨rfl, rfl⟩ := here
      by_cases there : other < heap.next
      · have there' : renumber start start' other < heap'.next := by
          rw [same.next_eq]
          exact (renumber_lt_iff later).mpr there
        rw [find?_bind_self _ there, find?_bind_self _ there']
        -- What the frame binds already stays, on both runs.
        rcases rel_cases before with ⟨missing, missing'⟩ | ⟨_, _, found, found', matched'⟩
        · rw [missing, missing']
          exact .some matched
        · rw [found, found']
          exact .some matched'
      · -- Nothing is bound in a frame that is not there, on either run.
        have missing : heap'.next ≤ renumber start start' other := by
          rw [same.next_eq]
          exact Nat.le_of_not_lt (mt (renumber_lt_iff later).mp there)
        rw [find?_of_next_le _ _ (by simpa using there),
          find?_of_next_le _ _ (by simpa using missing)]
        exact .none
    · have elsewhere : ¬(renumber start start' other = renumber start start' frame ∧
          name' = name) := by
        rwa [renumber_inj later]
      rwa [find?_bind_of_ne _ here, find?_bind_of_ne _ elsewhere]

/-- The runs still do the same when frames are put into the same one on both. -/
theorem extend {parent : Nat} (later : start ≤ start')
    (same : Heap.Again region functions start start' heap heap') (inside : region parent) :
    Heap.Again region functions start start' (heap.extend parent)
      (heap'.extend (renumber start start' parent)) where
  next_le := by
    rw [next_extend]
    exact Nat.le_succ_of_le same.next_le
  next_eq := by rw [next_extend, next_extend, renumber_succ same.next_le, same.next_eq]
  parents {frame outer} within around := by
    -- The last frame is the new one, and the frame around it is in the region.
    by_cases last : frame = heap.next
    · rw [last, parent?_extend_self, Option.some.injEq] at around
      rwa [← around]
    · rw [parent?_extend_of_ne _ last] at around
      exact same.parents within around
  parent?_eq {frame} within := by
    by_cases last : frame = heap.next
    · rw [last, parent?_extend_self, ← same.next_eq, parent?_extend_self]
      rfl
    · have elsewhere : renumber start start' frame ≠ heap'.next := by
        rw [same.next_eq]
        exact mt (renumber_inj later).mp last
      rw [parent?_extend_of_ne _ last, parent?_extend_of_ne _ elsewhere, same.parent?_eq within]
  find?_rel within name := by
    rw [find?_extend, find?_extend]
    exact same.find?_rel within name

end Heap.Again

section Runs

variable (region : Nat → Prop) (start start' : World)

/-- Whether a function of the second of two runs comes about there as another one does first. -/
def functionAgain : Function → Function → Prop :=
  Function.Match (fun c c' => region c.frame ∧ c' = c.again start start')
    fun f => ∀ host, f ≠ .host host

/-- Whether the second of two runs has done the same as the first one. -/
structure World.Again (world world' : World) : Prop where
  /-- The frames are the same. -/
  heap : Heap.Again region (functionAgain region start start') start.heap.next start'.heap.next
    world.heap world'.heap
  /-- Functions have been defined since the first run started. -/
  definitions_le : start.definitions ≤ world.definitions
  /-- As many functions have been defined on both runs. -/
  definitions_eq : world'.definitions =
    renumber start.definitions start'.definitions world.definitions
  /-- As many calls are under way. -/
  depth_eq : world.depth = world'.depth
  /-- Nobody has asked the first run to stop. -/
  quiet : world.interrupted = false
  /-- Nobody has asked the second run to stop. -/
  quiet' : world'.interrupted = false

/-- What corresponds on two runs that do the same. -/
def again : Relations where
  excused _ := False
  worlds _ := World.Again region start start'
  closures c c' := region c.frame ∧ c' = c.again start start'
  natives f := ∀ host, f ≠ .host host
  admits _ frame frame' := region frame ∧ frame' = renumber start.heap.next start'.heap.next frame
  writes _ frame frame' := region frame ∧ frame' = renumber start.heap.next start'.heap.next frame

variable {region start start'}

/-- Different functions are different on both runs. -/
theorem Closure.again_inj (later : start.Before start') {c d : Closure} :
    c.again start start' = d.again start start' ↔ c = d := by
  -- The two numbers of a function decide it, as all else is copied.
  cases c
  cases d
  simp [Closure.again, renumber_inj later.next_le, renumber_inj later.definitions_le]

/-- Two runs of the same from two worlds, one of them later, go on to do the same. -/
theorem again_simulation (context : Context) (later : start.Before start')
    (new : ∀ frame, start.heap.next ≤ frame → region frame) :
    Simulation (again region start start') context context where
  tolerance_eq := rfl
  places_eq := rfl
  alike same := by
    obtain ⟨-, rfl⟩ := same
    exact ⟨rfl, rfl, rfl, rfl⟩
  one_to_one same same' := by
    -- Functions are compared by their numbers, which are given out in the same order.
    obtain ⟨-, rfl⟩ := same
    obtain ⟨-, rfl⟩ := same'
    exact (Closure.again_inj later).symm
  part admitted _ _ := admitted
  target admitted := admitted
  callee admitted := admitted
  named admitted := admitted
  noted happening _ same := ⟨same.heap, same.definitions_le, same.definitions_eq, same.depth_eq,
    same.quiet, same.quiet'⟩
  stops same := .inl (same.quiet.trans same.quiet'.symm)
  room same := .inl (Context.full?_congr rfl same.depth_eq)
  lookup {level world world' name frame frame'} admitted same := by
    obtain ⟨inside, rfl⟩ := admitted
    exact same.heap.lookup_rel later.next_le inside name
  binds_eq {level world world' name frame frame'} admitted same := by
    obtain ⟨inside, rfl⟩ := admitted
    exact same.heap.binds_eq inside name
  bind {level world world' name frame frame' value value'} admitted matched same := by
    obtain ⟨-, rfl⟩ := admitted
    refine ⟨?_, ?_, ?_, ?_, ?_, ?_⟩
    · rw [World.heap_bind, World.heap_bind]
      exact same.heap.bind later.next_le matched frame name
    · simpa using same.definitions_le
    · simpa using same.definitions_eq
    · simpa using same.depth_eq
    · simpa using same.quiet
    · simpa using same.quiet'
  define {level world world' name children frame frame' parts params returnType} admitted _ _ _
      same := by
    obtain ⟨inside, rfl⟩ := admitted
    exact ⟨inside, by rw [same.definitions_eq]; rfl⟩
  counted same := ⟨same.heap, Nat.le_succ_of_le same.definitions_le,
    by rw [renumber_succ same.definitions_le, same.definitions_eq], same.depth_eq, same.quiet,
    same.quiet'⟩
  enter _ _ same := ⟨same.heap, same.definitions_le, same.definitions_eq,
    congrArg (· + 1) same.depth_eq, same.quiet, same.quiet'⟩
  leave same := ⟨same.heap, same.definitions_le, same.definitions_eq,
    congrArg (· - 1) same.depth_eq, same.quiet, same.quiet'⟩
  extend {level world world' c c'} known same := by
    obtain ⟨inside, rfl⟩ := known
    exact ⟨same.heap.extend later.next_le inside, same.definitions_le, same.definitions_eq,
      same.depth_eq, same.quiet, same.quiet'⟩
  inside _ same := by
    -- The frame of a call is new, and every new frame is in the region.
    have inside := new _ same.heap.next_le
    exact ⟨⟨inside, same.heap.next_eq⟩, fun _ _ => ⟨inside, same.heap.next_eq⟩⟩
  -- No function of the host can be reached, so that none is called.
  asked native := absurd rfl (native _)
  host native := absurd rfl (native _)

/-- A function that has come about before both runs is the same on them. -/
theorem functionAgain_self {function : Function} (made : function.Made region start) :
    functionAgain region start start' function function := by
  cases function with
  | closure closure =>
    obtain ⟨counted, inside, there⟩ := made
    refine ⟨inside, ?_⟩
    rw [Closure.again, renumber_of_lt counted, renumber_of_lt there]
  | builtin builtin => exact ⟨rfl, nofun⟩
  | host host => exact made.elim

/-- The second run starts as the first one did if all that was there then is as it was. -/
theorem World.again_start (settled : start.Settled region)
    (depth_eq : start.depth = start'.depth) (quiet' : start'.interrupted = false)
    (parent?_eq : ∀ {frame}, frame < start.heap.next →
      start'.heap.parent? frame = start.heap.parent? frame)
    (find?_eq : ∀ {frame}, frame < start.heap.next → ∀ name,
      start'.heap.find? frame name = start.heap.find? frame name) :
    World.Again region start start' start start' where
  heap := by
    -- A frame that is not there when the first run starts is not there when the second one does.
    have missing {frame : Nat} (new : ¬frame < start.heap.next) : start.heap.next ≤ frame ∧
        start'.heap.next ≤ renumber start.heap.next start'.heap.next frame :=
      ⟨Nat.le_of_not_lt new, le_renumber (Nat.le_of_not_lt new)⟩
    refine ⟨Nat.le_refl _, renumber_start.symm, settled.closed.parents, fun {frame} inside => ?_,
      fun {frame} inside name => ?_⟩
    · by_cases old : frame < start.heap.next
      · rw [renumber_of_lt old, parent?_eq old]
        cases around : start.heap.parent? frame with
        | none => rfl
        -- The frame around it is there as well, so its number stays.
        | some outer => rw [Option.map_some, renumber_of_lt (settled.parents inside around).2]
      · rw [parent?_of_next_le _ (missing old).1, parent?_of_next_le _ (missing old).2]
        rfl
    · by_cases old : frame < start.heap.next
      · rw [renumber_of_lt old, find?_eq old]
        cases found : start.heap.find? frame name with
        | none => exact .none
        | some value =>
          -- What is bound there holds only functions that have been defined before.
          refine .some ((match_self_iff value).mpr fun function member => ?_)
          exact functionAgain_self (settled.values inside found function member)
      · rw [find?_of_next_le _ _ (missing old).1, find?_of_next_le _ _ (missing old).2]
        exact .none
  definitions_le := Nat.le_refl _
  definitions_eq := renumber_start.symm
  depth_eq := depth_eq
  quiet := settled.quiet
  quiet' := quiet'

end Runs

end Scriptlet

import Scriptlet.Proofs.Heap.Reach
import Scriptlet.Proofs.Machine.Growth
import Scriptlet.Proofs.Machine.Telling

/-!
Evaluation depends only on the frames that can be reached.

Main statement: what an expression comes to in a frame, and what it does to this frame and to new
ones, is the same in worlds that differ only in what frames out of reach bind.
-/

namespace Scriptlet

open Evaluation Value Heap

/--
Whether a host brings no frames within reach in a run that starts after so many calls.

The functions in its answers were defined in frames of a region, or in frames of functions that it
was handed since. A host that gives back an older function from elsewhere leads out of the region.
-/
def Host.KeepsWithin (host : Host) (region : Nat → Prop) (age : Nat) : Prop :=
  ∀ earlier call value, (host earlier call).result = .ok value →
    ∀ closure ∈ value.closures, region closure.frame ∨
      ∃ told ∈ call :: earlier.take (earlier.length - age),
        ∃ handed ∈ allClosures told.arguments, handed.frame = closure.frame

/-- Whether the functions handed to the host since it had been called so often lie in a region. -/
def World.Tells (region : Nat → Prop) (before : List HostCall) (world : World) : Prop :=
  ∃ since, world.hostCalls = since ++ before ∧ ∀ call ∈ since, AllWithin region call.arguments

/-- Whether two worlds differ at most in what frames outside a region bind. -/
def World.Agree (region : Nat → Prop) (world world' : World) : Prop :=
  ∃ heap', world' = { world with heap := heap' } ∧ world.heap.Agree region heap'

/-- Whether two worlds differ outside a region that nothing leads out of, since a certain start. -/
structure World.Apart (region : Nat → Prop) (start world world' : World) : Prop where
  /-- They agree on the region. -/
  agree : world.Agree region world'
  /-- All frames are older or new. -/
  older : start.heap.next ≤ world.heap.next
  /-- Nothing that can be looked up leads out of the region. -/
  closed : world.heap.Closed region
  /-- Nothing that the host was told leads out of the region. -/
  tells : world.Tells region start.hostCalls

namespace World

variable {region : Nat → Prop} {start world world' : World} {before : List HostCall}
  {frame : Nat} {name : Name} {value : Value}

/-- The host is told nothing by what is no call. -/
theorem Tells.note (tells : world.Tells region before) {happening : Happening}
    (quiet : ∀ function arguments, happening ≠ .entered function arguments) :
    (world.note happening).Tells region before :=
  TellsFit.note tells quiet

/-- The host is told the arguments of a call. -/
theorem Tells.enter (tells : world.Tells region before) (function : Function)
    {arguments : List Value} (within : AllWithin region arguments) :
    (world.note (.entered function arguments)).Tells region before :=
  TellsFit.enter tells function within

/-- A call that the host remembers was told to it since the start. -/
theorem Tells.of_mem_take (tells : world.Tells region before) {call : HostCall}
    (member : call ∈ world.hostCalls.tail.take (world.hostCalls.tail.length - before.length)) :
    AllWithin region call.arguments :=
  TellsFit.of_mem_take tells member

/-- Worlds still agree when the same is bound in both. -/
theorem Agree.bind (agree : world.Agree region world') (inside : region frame) (name : Name)
    (value : Value) :
    (world.bind frame name value).Agree region (world'.bind frame name value) := by
  obtain ⟨heap', rfl, agree⟩ := agree
  -- Whether the name is free is the same on both sides, for the frame is in the region.
  have bound : heap'.binds frame name = world.heap.binds frame name := by
    rw [binds, binds, agree.find?_eq inside]
  have both := agree.bind frame name value
  unfold World.bind
  simp only [bound]
  split
  -- Where the name is bound already, nothing happens in either world.
  · exact ⟨heap', rfl, agree⟩
  · exact ⟨_, rfl, both⟩

/-- Worlds stay apart while something is bound in the region. -/
theorem Apart.bind (apart : Apart region start world world') (inside : region frame)
    (within : Within region value) :
    Apart region start (world.bind frame name value) (world'.bind frame name value) where
  agree := apart.agree.bind inside name value
  older := by simpa using apart.older
  closed := by
    rw [heap_bind]
    exact apart.closed.bind within
  tells := TellsFit.bind apart.tells frame name value

/-- Worlds stay apart while a frame is put into one of the region. -/
theorem Apart.extend (apart : Apart region start world world') (inside : region frame) :
    Apart region start { world with heap := world.heap.extend frame }
      { world' with heap := world'.heap.extend frame } where
  agree := by
    obtain ⟨heap', rfl, agree⟩ := apart.agree
    exact ⟨_, rfl, agree.extend frame⟩
  older := by
    rw [next_extend]
    exact Nat.le_succ_of_le apart.older
  closed := apart.closed.extend inside
  tells := apart.tells

/-- Worlds stay apart while the same happens in both. -/
theorem Apart.change (apart : Apart region start world world') (change : World → World)
    (blind : ∀ world heap, change { world with heap } = { change world with heap })
    (tells : (change world).Tells region start.hostCalls) :
    Apart region start (change world) (change world') := by
  -- A change that does not look at the heap leaves it alone.
  have heap : (change world).heap = world.heap := by
    have same := congrArg World.heap (blind world world.heap)
    exact same
  obtain ⟨heap', rfl, agree⟩ := apart.agree
  refine ⟨⟨heap', blind world heap', ?_⟩, ?_, ?_, tells⟩
  · rw [heap]
    exact agree
  · rw [heap]
    exact apart.older
  · rw [heap]
    exact apart.closed

end World

section Isolation

variable (context : Context) (roots : Nat → Prop) (start : World)

/-- What corresponds in worlds that differ in what cannot be reached. -/
def isolation : Relations where
  excused _ := False
  worlds _ := World.Apart (start.heap.scope roots) start
  closures := closureWithin (start.heap.scope roots)
  natives _ := True
  admits _ frame frame' := frame = frame' ∧ start.heap.scope roots frame
  writes _ frame frame' := frame = frame' ∧ start.heap.scope roots frame

/-- What evaluation does in a world, it does in one that differs in what cannot be reached. -/
theorem isolation_simulation
    (keeps : context.host.KeepsWithin (start.heap.scope roots) start.hostCalls.length) :
    Simulation (isolation roots start) context context where
  tolerance_eq := rfl
  places_eq := rfl
  alike same := by
    obtain ⟨rfl, -⟩ := same
    exact ⟨rfl, rfl, rfl, rfl⟩
  one_to_one same same' := by
    obtain ⟨rfl, -⟩ := same
    obtain ⟨rfl, -⟩ := same'
    exact Iff.rfl
  part admitted _ _ := admitted
  target admitted := admitted
  callee admitted := admitted
  named admitted := admitted
  noted happening quiet apart :=
    apart.change (·.note happening) (fun _ _ => rfl) (apart.tells.note quiet)
  stops apart := by
    obtain ⟨heap', rfl, -⟩ := apart.agree
    exact .inl rfl
  room apart := by
    obtain ⟨heap', rfl, -⟩ := apart.agree
    exact .inl rfl
  lookup {level world world' name frame frame'} admitted apart := by
    obtain ⟨rfl, inside⟩ := admitted
    obtain ⟨heap', rfl, agree⟩ := apart.agree
    simp only [← agree.lookup_eq apart.closed inside name]
    cases found : world.heap.lookup frame name with
    | none => exact .none
    | some value =>
      -- What is found in the region was defined in it.
      exact .some ((match_within_iff value value).mpr ⟨rfl, apart.closed.lookup inside found⟩)
  binds_eq admitted apart := by
    obtain ⟨rfl, inside⟩ := admitted
    obtain ⟨heap', rfl, agree⟩ := apart.agree
    rw [binds, binds, agree.find?_eq inside]
  bind admitted same apart := by
    obtain ⟨rfl, inside⟩ := admitted
    obtain ⟨rfl, within⟩ := (match_within_iff _ _).mp same
    exact apart.bind inside within
  define admitted _ _ _ apart := by
    -- A definition captures the frame that it is evaluated in.
    obtain ⟨rfl, inside⟩ := admitted
    obtain ⟨heap', rfl, -⟩ := apart.agree
    exact ⟨rfl, inside⟩
  counted apart := apart.change (fun world =>
    { world with definitions := world.definitions + 1 }) (fun _ _ => rfl) apart.tells
  enter {level world world' function function' arguments arguments'} same sames apart := by
    obtain ⟨rfl, -⟩ := (functionWithin_iff function _).mp same
    obtain ⟨rfl, within⟩ := (matchAll_within_iff arguments _).mp sames
    have deeper := apart.change (fun world => { world with depth := world.depth + 1 })
      (fun _ _ => rfl) apart.tells
    exact deeper.change (·.note (.entered function arguments)) (fun _ _ => rfl)
      (deeper.tells.enter function within)
  leave apart := by
    have back := apart.change (fun world => { world with depth := world.depth - 1 })
      (fun _ _ => rfl) apart.tells
    exact back.change (·.note .left) (fun _ _ => rfl) (back.tells.note (by simp))
  extend same apart := by
    -- The new frame lies in the frame of the definer, which is in the region; a caller has no say.
    obtain ⟨rfl, inside⟩ := same
    exact apart.extend inside
  inside same apart := by
    obtain ⟨rfl, -⟩ := same
    obtain ⟨heap', rfl, agree⟩ := apart.agree
    exact ⟨⟨agree.next_eq, .inr apart.older⟩, fun _ _ => ⟨agree.next_eq, .inr apart.older⟩⟩
  asked _ apart :=
    apart.change (fun world => { world with interrupted := true }) (fun _ _ => rfl) apart.tells
  host {level world world' function arguments arguments'} _ sames apart := by
    obtain ⟨rfl, within⟩ := (matchAll_within_iff arguments _).mp sames
    obtain ⟨heap', rfl, -⟩ := apart.agree
    refine ⟨rfl, .refl fun value answered => (match_within_iff value value).mpr ⟨rfl, ?_⟩⟩
    intro closure member
    rcases keeps _ _ value answered closure member with inside | ⟨told, known, handed, among, same⟩
    · exact inside
    rw [← same]
    -- The host was handed a function of the frame in this call, or in one that it remembers.
    rcases List.mem_cons.mp known with rfl | known
    · exact within handed among
    · exact apart.tells.of_mem_take known handed among

variable {context roots start} {heap' : Heap} {frame : Nat}

/-- Heaps that agree on what can be reached make worlds that are apart. -/
theorem apart_of_agree (agree : start.heap.Agree (start.heap.Reaches roots) heap') :
    World.Apart (start.heap.scope roots) start start { start with heap := heap' } where
  agree := ⟨heap', rfl, agree.scope⟩
  older := Nat.le_refl _
  closed := closed_scope _ _
  tells := ⟨[], rfl, by simp⟩

end Isolation

/-- The frames in which the functions in some values were defined. -/
def capturedBy (values : List Value) (frame : Nat) : Prop :=
  ∃ closure ∈ allClosures values, closure.frame = frame

namespace Interpreter

/-- An interpreter with another heap. -/
def withHeap (interpreter : Interpreter) (heap : Heap) : Interpreter :=
  { interpreter with world := { interpreter.world with heap } }

/-- Whether two interpreters come to the same and their worlds agree on a region afterwards. -/
def SameWithin (region : Nat → Prop) (left right : Except Stop Value × Interpreter) : Prop :=
  left.1 = right.1 ∧ left.2.world.Agree region right.2.world

variable {interpreter : Interpreter} {host : Host} {heap' : Heap} {roots : Nat → Prop}

/-- What is in step with itself in isolation comes to the same if heaps agree on what is reached. -/
theorem sameWithin_perform {evaluation : Evaluation Value}
    (agree : interpreter.world.heap.Agree (interpreter.world.heap.Reaches roots) heap')
    (kept : (isolation roots interpreter.world).Keeps 0
      (Match (functionWithin (interpreter.world.heap.scope roots))) evaluation evaluation) :
    SameWithin (interpreter.world.heap.scope roots) (interpreter.perform evaluation)
      ((interpreter.withHeap heap').perform evaluation) := by
  -- Nothing is excused in isolation, so that both runs end alike.
  rw [perform_eq, perform_eq]
  rcases kept.ends (apart_of_agree agree) with ⟨stop, -, excused⟩ | ⟨alike, apart⟩
  · exact excused.elim
  · exact ⟨alike.eq fun value value' same => ((match_within_iff value value').mp same).1,
      apart.agree⟩

/--
What an expression comes to in a frame hangs only on the frames that can be reached from there.

If heaps have the same frames in the same places and agree on what these bind, it comes to the same
in both, and the heaps go on to agree, on the frame, on all that was reached, and on new frames.
The same is true of a call and what can be reached from the function and the arguments.
The host may give back functions of frames that can be reached or are new, and those it is handed.
-/
theorem sameWithin_evaluation (interpreter : Interpreter) (host : Host) (heap' : Heap) :
    (∀ frame,
      host.KeepsWithin (interpreter.world.heap.scope (· = frame))
        interpreter.world.hostCalls.length →
      interpreter.world.heap.Agree (interpreter.world.heap.Reaches (· = frame)) heap' →
      ∀ expr,
        (∀ steps, SameWithin (interpreter.world.heap.scope (· = frame))
          (interpreter.perform (eval (interpreter.context host) steps expr frame))
          ((interpreter.withHeap heap').perform
            (eval (interpreter.context host) steps expr frame))) ∧
        SameWithin (interpreter.world.heap.scope (· = frame))
          (interpreter.evalIn host expr frame)
          ((interpreter.withHeap heap').evalIn host expr frame)) ∧
    (∀ function arguments,
      host.KeepsWithin
        (interpreter.world.heap.scope (capturedBy (.function function :: arguments)))
        interpreter.world.hostCalls.length →
      interpreter.world.heap.Agree
        (interpreter.world.heap.Reaches (capturedBy (.function function :: arguments))) heap' →
        (∀ steps, SameWithin
          (interpreter.world.heap.scope (capturedBy (.function function :: arguments)))
          (interpreter.perform (Evaluation.call (interpreter.context host)
            (eval (interpreter.context host) steps) function arguments))
          ((interpreter.withHeap heap').perform (Evaluation.call (interpreter.context host)
            (eval (interpreter.context host) steps) function arguments))) ∧
        SameWithin (interpreter.world.heap.scope (capturedBy (.function function :: arguments)))
          (interpreter.call host function arguments)
          ((interpreter.withHeap heap').call host function arguments)) := by
  -- Both runs keep to the same region: what is reached at first, and all frames made since.
  have simulation (roots : Nat → Prop) (keeps : host.KeepsWithin
      (interpreter.world.heap.scope roots) interpreter.world.hostCalls.length) :=
    isolation_simulation (interpreter.context host) roots interpreter.world keeps
  constructor
  · intro frame keeps agree expr
    -- The frame itself is where the search starts.
    have inside : interpreter.world.heap.scope (· = frame) frame := .inl (.root rfl)
    have kept (steps : Nat) := (simulation _ keeps).eval_keeps steps 0 expr frame frame
      ⟨rfl, inside⟩
    refine ⟨fun steps => sameWithin_perform agree (kept steps), sameWithin_perform agree ?_⟩
    exact InStep.bind ((simulation _ keeps).ofShape expr.validate) fun _ _ _ => kept steps
  · intro function arguments keeps agree
    -- The search starts in the frames that the function and the arguments have captured.
    have within : AllWithin (interpreter.world.heap.scope
        (capturedBy (.function function :: arguments))) (.function function :: arguments) :=
      fun closure member => .inl (.root ⟨closure, member, rfl⟩)
    rw [allWithin_cons] at within
    have kept (steps : Nat) :
        (isolation (capturedBy (.function function :: arguments)) interpreter.world).Keeps 0 _
          (Evaluation.call (interpreter.context host) (eval (interpreter.context host) steps)
            function arguments) (Evaluation.call (interpreter.context host)
              (eval (interpreter.context host) steps) function arguments) :=
      (simulation _ keeps).call_keeps ((simulation _ keeps).eval_keeps steps)
        ((functionWithin_iff _ _).mpr ⟨rfl, within.1⟩)
        ((matchAll_within_iff _ _).mpr ⟨rfl, within.2⟩)
    exact ⟨fun steps => sameWithin_perform agree (kept steps),
      sameWithin_perform agree (kept Interpreter.steps)⟩

/-- A function that looks up a name in the outermost frame. -/
def getter : Closure :=
  ⟨0, some ⟨"F"⟩, [], none, .plain .sequence [.symbol ⟨"X"⟩], 0⟩

/-- An interpreter whose outermost frame binds a name and a function, with another frame inside. -/
def nested (bindings : List (Name × Value)) : Interpreter :=
  ⟨{}, '.', { World.initial with
    heap := ⟨#[⟨none, [(⟨"X"⟩, .integer 1), (⟨"F"⟩, .function (.closure getter))]⟩,
      ⟨some 0, bindings⟩]⟩ }, []⟩

/-- The outermost frame binds a number and a function. -/
theorem eq_of_find?_nested {bindings : List (Name × Value)} {name : Name} {value : Value}
    (found : (nested bindings).world.heap.find? 0 name = some value) :
    value = .integer 1 ∨ value = .function (.closure getter) := by
  change List.lookup name [(⟨"X"⟩, .integer 1), (⟨"F"⟩, .function (.closure getter))] =
    some value at found
  -- The frame is a list of two bindings.
  have bound := mem_of_lookup found
  simp only [List.mem_cons, List.not_mem_nil, or_false, Prod.mk.injEq] at bound
  exact bound.imp And.right And.right

/-- Nothing leads out of the outermost frame. -/
theorem closed_nested (bindings : List (Name × Value)) :
    (nested bindings).world.heap.Closed (· = 0) where
  parents {frame outer} outermost outside := by
    subst outermost
    cases outside
  values {frame name value} outermost found closure member := by
    subst outermost
    -- Only one of the two values that it binds is a function.
    rcases eq_of_find?_nested found with rfl | rfl
    · cases member
    · rw [closures, List.mem_singleton] at member
      rw [member]
      rfl

/-- Whatever the inner frame binds, the heaps agree on what can be reached from the outer one. -/
theorem agree_nested (bindings bindings' : List (Name × Value))
    (outermost : ∀ frame, roots frame → frame = 0) :
    (nested bindings).world.heap.Agree ((nested bindings).world.heap.Reaches roots)
      (nested bindings').world.heap where
  next_eq := rfl
  parent?_eq frame := by
    match frame with
    | 0 | 1 | _ + 2 => rfl
  find?_eq reached name := by
    rw [(closed_nested bindings).of_reaches outermost reached]
    rfl

/-- A host that only ever answers with the empty list. -/
def mute : Host :=
  fun _ _ => ⟨.ok .emptyList, false⟩

/-- A host that gives back one function of the outermost frame whenever it is called. -/
def giver : Host :=
  fun _ _ => ⟨.ok (.function (.closure getter)), false⟩

/-- A host that knows nothing but the outermost frame leads to no other. -/
theorem keepsWithin_giver {region : Nat → Prop} (outermost : region 0) (age : Nat) :
    giver.KeepsWithin region age := by
  intro earlier call value answered closure member
  -- Whatever it is asked, its answer holds the one function.
  cases answered
  rw [closures, List.mem_singleton] at member
  rw [member]
  exact .inl outermost

/-- What the inner frame binds has no say in a call of the function defined outside of it. -/
theorem sameWithin_getter :
    (nested []).world.heap.binds 1 ⟨"X"⟩ ≠
      (nested [(⟨"X"⟩, .integer 2)]).world.heap.binds 1 ⟨"X"⟩ ∧
    SameWithin ((nested []).world.heap.scope (· = 0))
      ((nested []).evalIn giver (.node .call (some ⟨"F"⟩) []) 0)
      ((nested [(⟨"X"⟩, .integer 2)]).evalIn giver (.node .call (some ⟨"F"⟩) []) 0) ∧
    SameWithin ((nested []).world.heap.scope (capturedBy [.function (.closure getter)]))
      ((nested []).call giver (.closure getter) [])
      ((nested [(⟨"X"⟩, .integer 2)]).call giver (.closure getter) []) := by
  have same := sameWithin_evaluation (nested []) giver
    (nested [(⟨"X"⟩, .integer 2)]).world.heap
  -- The function captured the outermost frame, and no other.
  have captures : capturedBy [.function (.closure getter)] 0 :=
    ⟨getter, by simp [allClosures, closures], rfl⟩
  refine ⟨by decide, ?_, ?_⟩
  · exact (same.1 0 (keepsWithin_giver (.inl (.root rfl)) _) (agree_nested _ _ fun _ => id)
      (.node .call (some ⟨"F"⟩) [])).2
  · refine (same.2 (.closure getter) [] (keepsWithin_giver (.inl (.root captures)) _)
      (agree_nested _ _ ?_)).2
    intro frame captured
    obtain ⟨closure, member, rfl⟩ := captured
    simp only [allClosures, closures, List.append_nil, List.mem_singleton] at member
    rw [member]
    rfl

end Interpreter

end Scriptlet

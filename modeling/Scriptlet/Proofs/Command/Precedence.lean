import Scriptlet.Command.Run
import Scriptlet.Proofs.Command.Arguments
import Scriptlet.Proofs.Command.Binding
import Scriptlet.Proofs.Interpreter.Lifetime
import Scriptlet.Proofs.Name

/-!
What the names of a script are bound to before it runs.

Main statement: where the arguments of a run are accepted, it is always set up, and a name has the
value of the first flag that binds it, or else that of the library. It keeps this value to the end.
-/

namespace Scriptlet

/-- A frame that lies in no other one finds what it binds itself. -/
theorem Heap.lookup_of_outermost {heap : Heap} {frame : Nat} (outermost : heap.parent? frame = none)
    (name : Name) : heap.lookup frame name = heap.find? frame name := by
  -- If the frame binds nothing, there is no frame outside to be asked.
  rw [lookup]
  cases heap.find? frame name with
  | some value => rfl
  | none => simp [outer?, outermost]

namespace Interpreter

variable (settings : Settings) (separator : Char) (bindings : List (Name × Value))

/-- The root frame lies in no other one. -/
theorem parent?_start : (start settings separator bindings).world.heap.parent? root = none := by
  -- The root frame is there from the beginning, and binding puts no frame around it.
  have bound : (bindAll .initial root bindings).heap.parent? root = none := by
    rw [frames_bindAll.2]
    exact Heap.parent?_initial root
  cases there : settings.intrinsics with
  | true => simpa only [start, there, if_true, frames_bindAll.2] using bound
  | false => simpa only [start, there, Bool.false_eq_true, if_false] using bound

/-- In the root frame the first binding of the host stands, and the library comes after all. -/
theorem lookup_start (name : Name) :
    (start settings separator bindings).world.heap.lookup root name =
      (bindings.lookup name).or (if settings.intrinsics then library.lookup name else none) := by
  -- The library is bound in the same frame later on, where a name that is bound stays as it is.
  rw [Heap.lookup_of_outermost (parent?_start settings separator bindings)]
  have new : root < World.initial.heap.next := by decide
  have bound : (bindAll .initial root bindings).heap.find? root name = bindings.lookup name := by
    rw [find?_bindAll new]
    exact (congrArg (Option.or · _) (Heap.find?_initial root name)).trans Option.none_or
  cases there : settings.intrinsics with
  | true =>
    have still : root < (bindAll .initial root bindings).heap.next := by
      rwa [frames_bindAll.1]
    simp only [start, there, if_true, find?_bindAll still, bound]
  | false => simp [start, there, bound]

end Interpreter

namespace Command

open Build Interpreter

/-- What a flag for a binding says: a name, and the value of a constant. -/
def Binds (separator : Char) (text : String) (binding : Name × Value) : Prop :=
  ∃ spelling constant literal, text = spelling ++ "=" ++ constant ∧ '=' ∉ spelling.toList ∧
    StandsFor separator constant literal ∧
    binding = (Name.ofText (Text.trim spelling), .ofLiteral literal)

/-- Bindings that have been read are always taken from the host. -/
theorem exists_hostBindings {separator : Char} {texts : List String} {bindings : List Binding}
    (read : readBindings separator texts = .ok bindings) :
    ∃ bound, hostBindings bindings = .ok bound ∧ List.Forall₂ (Binds separator) texts bound := by
  -- By induction on the texts, which are read and taken one by one.
  induction texts generalizing bindings with
  | nil =>
    cases read
    exact ⟨[], rfl, .nil⟩
  | cons text rest ih =>
    obtain ⟨binding, first, more⟩ := bind_eq_ok.mp read
    obtain ⟨others, later, made⟩ := bind_eq_ok.mp more
    cases made
    obtain ⟨bound, taken, bind⟩ := ih later
    -- The type that comes with a constant is its own, so that there is nothing to refuse.
    obtain ⟨name, constant, literal, whole, unsigned, stands, rfl⟩ := exists_of_readBinding first
    refine ⟨(Name.ofText (Text.trim name), .ofLiteral literal) :: bound, ?_,
      .cons ⟨name, constant, literal, whole, unsigned, stands, rfl⟩ bind⟩
    simp only [hostBindings, Value.ofHost_ofLiteral, taken, ok_bind, pure_eq_ok]

/-- How a run that arguments ask for is set up, and what its root frame binds. -/
structure SetUp (arguments : List String) (options : RunOptions) (bindings : List (Name × Value))
    (interpreter : Interpreter) : Prop where
  /-- The separator is that of the last flag for it. -/
  separator : [options.separator] =
    ((flagValues "--decimal-separator=" arguments).getLast?.getD ".").toList
  /-- All bindings are taken from the host. -/
  taken : hostBindings options.bindings = .ok bindings
  /-- They are what the flags for bindings say, in the order of the flags. -/
  given : List.Forall₂ (Binds options.separator) (flagValues "--bind=" arguments) bindings
  /-- This is the interpreter in which a tree is evaluated. -/
  evaluates : ∀ tree, evaluateTree options tree =
    .ofResult options.settings.places (interpreter.run noHost tree options.builder).1
  /-- A name has its first value, or that of the library, if this is not taken away. -/
  found : ∀ name, interpreter.world.heap.lookup root name =
    (bindings.lookup name).or
      (if "--no-intrinsics" ∈ arguments then none else library.lookup name)
  /-- What the root frame binds keeps its value as long as the frame lives. -/
  lasting : ∀ name value later, interpreter.world.heap.lookup root name = some value →
    Lives root interpreter.world later → later.heap.lookup root name = some value
  /-- Evaluation is a row of steps; the root frame lives after each of them, and at the end. -/
  alive : ∀ host tree builder expr, builder.build options.separator tree = .ok expr →
    (∃ since, Ran (interpreter.context host) interpreter.world
      (interpreter.evaluate host expr).1 since (interpreter.run host tree builder).2.world) ∧
    (∀ level since later, Course (interpreter.context host) interpreter.world level since later →
      Lives root interpreter.world later) ∧
    Lives root interpreter.world (interpreter.run host tree builder).2.world

/--
Bindings of the host go before the library, and the first one of a name before all others.

If the arguments of a run are accepted, it is set up without failure, wherever the flags stand: each
flag for a binding gives a name and a value, read with the separator that is given last, and in the
root frame a name has the value of the first flag for it. Without such a flag it has its value in
the library, unless this is taken away, and else it has none. A name that has a value keeps it while
any tree is evaluated, to the end.
-/
theorem exists_setUp {arguments : List String} {options : RunOptions}
    (read : readRunOptions arguments = .ok options) :
    ∃ bindings, SetUp arguments options bindings
      (start options.settings options.separator bindings) := by
  -- What is asked for is known, and all bindings are taken.
  have asks := asks_of_readRunOptions read
  obtain ⟨bindings, taken, given⟩ := exists_hostBindings asks.bindings
  let interpreter := start options.settings options.separator bindings
  refine ⟨bindings, asks.separator, taken, given, ?_, ?_, ?_, ?_⟩
  · -- The tree is evaluated in the interpreter that is started here.
    intro tree
    simp only [evaluateTree, taken]
  · -- The library is looked at last, if it is there.
    intro name
    rw [lookup_start, asks.intrinsics]
    by_cases away : "--no-intrinsics" ∈ arguments <;> simp [away]
  · intro name value later found lives
    -- The root frame has found it in itself, and there it stays.
    rw [Heap.lookup_of_outermost (parent?_start ..)] at found
    exact Heap.lookup_of_find? (lives.find?_eq found)
  · -- A tree is evaluated if it is built at all, and evaluation leaves the root frame alive.
    intro host tree builder expr built
    have ends : (interpreter.run host tree builder).2.world =
        (interpreter.evaluate host expr).2.world := by
      have built' : builder.build interpreter.separator tree = .ok expr := built
      simp only [run, built']
    obtain ⟨since, ran⟩ := interpreter.exists_ran_evalIn host expr root
    refine ⟨⟨since, ends ▸ ran⟩, fun level since later course => .of_course course, ?_⟩
    exact ends ▸ interpreter.lives_evalIn host expr root

/-- The separator may come last, and a function of the library may get another value. -/
theorem exists_setUp_lateSeparator :
    let arguments := ["--bind=x=1.5", "--bind=X=2", "t.json", "--bind=Length=3",
      "--decimal-separator=;"]
    let options : RunOptions := ⟨"t.json", .visitor, {}, ';', [⟨"x", .string, .string "1.5"⟩,
      ⟨"X", .integer, .integer 2⟩, ⟨"Length", .integer, .integer 3⟩], false⟩
    readRunOptions arguments = .ok options ∧
      ∃ bindings, SetUp arguments options bindings
          (start options.settings options.separator bindings) ∧
        ∀ later, Lives root (start options.settings options.separator bindings).world later →
          later.heap.lookup root (.ofText "x") = some (.string "1.5") ∧
            later.heap.lookup root (.ofText "length") = some (.integer 3) := by
  intro arguments options
  have read : readRunOptions arguments = .ok options := by decide +kernel
  obtain ⟨bindings, setUp⟩ := exists_setUp read
  refine ⟨read, bindings, setUp, fun later lives =>
    ⟨setUp.lasting _ _ later ?_ lives, setUp.lasting _ _ later ?_ lives⟩⟩
  -- Both names are found among the bindings, before the library is looked at.
  all_goals
    cases setUp.taken
    rw [setUp.found]
    decide +kernel

end Command

end Scriptlet

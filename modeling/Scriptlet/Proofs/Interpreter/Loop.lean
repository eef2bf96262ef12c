import Mathlib.Data.Finset.Card
import Scriptlet.Proofs.Machine.Growth
import Scriptlet.Proofs.Machine.Repetition

/-!
Loops end while they have names to bind, or not at all.

Main statement: where no function of the host can be reached, a loop that ends has run its body no
more often than there were names that it binds and that were free in its frame. A round that binds
none of them is repeated for ever.
-/

namespace Scriptlet

open Evaluation Value Heap

section Rounds

variable (context : Context) (frame : Nat) (condition body : Expr)

/-- Whether a round of a loop comes to something: to whether the condition held, or to a failure. -/
def Round : World → Ending Bool → Prop :=
  ComesTo fun steps => evalRound (eval context steps) frame condition body

/-- Whether so many rounds of a loop in which the condition holds lead from one world to another. -/
inductive Iterates : Nat → World → World → Prop where
  /-- No round leads nowhere. -/
  | none {world : World} : Iterates 0 world world
  /-- A round comes before others. -/
  | round {count : Nat} {world between last : World} :
      Round context frame condition body world (.ok true between) →
        Iterates count between last → Iterates (count + 1) world last

/-- Whether a loop binds no name in its frame on the way from one world to another. -/
def Gainless (world after : World) : Prop :=
  ∀ name, after.heap.binds frame name = world.heap.binds frame name

/-- The names that a loop may bind in its frame and that are free there. -/
def freeTargets (world : World) : Finset Name :=
  (condition.targets ++ body.targets).toFinset.filter fun name =>
    world.heap.binds frame name = false

/-- Whether a loop is cut off for want of steps, however many it is given. -/
def Endless (world : World) : Prop :=
  ∀ steps rounds, Ending.IsCut (evalRounds (eval context steps) frame condition body rounds world)

variable {context frame condition body} {region : Nat → Prop} {world after : World}

/-- A round comes to a truth value if any number of steps gives it, since only a cut is undone by
more. -/
theorem round_ok_iff {truth : Bool} :
    Round context frame condition body world (.ok truth after) ↔
      ∃ steps, evalRound (eval context steps) frame condition body world = .ok truth after :=
  ⟨fun ⟨steps, run, _⟩ => ⟨steps, run⟩, fun ⟨steps, run⟩ => ⟨steps, run, Ending.not_isCut_ok⟩⟩

/-- A round that ends leads on: what had come about stays there. -/
theorem Round.leads {truth : Bool} (settled : world.Settled region) (has : world.Has region frame)
    (round : Round context frame condition body world (.ok truth after)) :
    Leads region world after := by
  -- With whatever steps a round has come to its end, it has kept what had come about.
  obtain ⟨steps, run⟩ := round_ok_iff.mp round
  have ended := settles_evalRound context steps condition body has settled
  rw [run] at ended
  exact ended.1

/-- A round binds in no frame that was there, but names that it may bind in its own. -/
theorem Round.grown {truth : Bool}
    (round : Round context frame condition body world (.ok truth after)) :
    Grown (fun gaining name => gaining = frame ∧ name ∈ condition.targets ++ body.targets)
      world.heap after.heap := by
  obtain ⟨steps, run⟩ := round_ok_iff.mp round
  -- Growth by the targets is an invariant, and both parts of the round admit it.
  let invariant := Invariant.growth
    (fun gaining name => gaining = frame ∧ name ∈ condition.targets ++ body.targets) world.heap
  have simulation := (invariant.parallel context).simulation
  have kept : (invariant.parallel context).relations.Keeps 0 Eq
      (evalRound (eval context steps) frame condition body)
      (evalRound (eval context steps) frame condition body) :=
    simulation.evalRound_keeps (simulation.eval_keeps steps)
      ⟨rfl, .inr fun name binds => ⟨rfl, List.mem_append_left _ binds⟩⟩
      ⟨rfl, .inr fun name binds => ⟨rfl, List.mem_append_right _ binds⟩⟩
  have ended := kept world world ⟨rfl, .refl _⟩
  rw [run] at ended
  exact ended.2.2

/-- A round that binds nothing in its own frame changes no frame that was there. -/
theorem Round.find?_eq (round : Round context frame condition body world (.ok true after))
    (idle : Gainless frame world after) {inner : Nat} (old : inner < world.heap.next)
    (name : Name) : after.heap.find? inner name = world.heap.find? inner name := by
  refine round.grown.find?_eq ?_
  -- The loop binds in its own frame only, and there it has bound nothing.
  by_cases own : inner = frame
  · rw [own]
    exact idle name
  · exact round.grown.binds_eq old fun gains => absurd gains.1 own

/-- A round that has bound nothing in its frame happens once more in the same way. -/
theorem Round.repeats (settled : world.Settled region) (has : world.Has region frame)
    (round : Round context frame condition body world (.ok true after))
    (idle : Gainless frame world after) :
    ∃ later, Round context frame condition body after (.ok true later) ∧
      Gainless frame after later := by
  have leads := round.leads settled has
  -- All that was there before the first round is as it was, so the second one does the same.
  have start : World.Again region world after world after :=
    World.again_start settled leads.depth_eq.symm leads.settled.quiet round.grown.parents
      (round.find?_eq idle)
  obtain ⟨steps, run⟩ := round_ok_iff.mp round
  have simulation := again_simulation context leads.before settled.later
  have kept : (again region world after).Keeps 0 Eq
      (evalRound (eval context steps) frame condition body)
      (evalRound (eval context steps) frame condition body) :=
    simulation.evalRound_keeps (simulation.eval_keeps steps)
      ⟨has.1, (renumber_of_lt has.2).symm⟩ ⟨has.1, (renumber_of_lt has.2).symm⟩
  have ended := kept world after start
  rw [run] at ended
  cases run' : evalRound (eval context steps) frame condition body after with
  | error stop later =>
    rw [run'] at ended
    exact ended.elim
  | ok truth later =>
    rw [run'] at ended
    obtain ⟨rfl, same⟩ := ended
    refine ⟨later, round_ok_iff.mpr ⟨steps, run'⟩, fun name => ?_⟩
    -- What the frame binds after the second round, it binds after the first one.
    have binds := same.heap.binds_eq has.1 name
    rw [renumber_of_lt has.2] at binds
    exact binds.symm

/-- A loop is cut off if it is cut off where its first round leads. -/
theorem Round.isCut_succ (round : Round context frame condition body world (.ok true after))
    {steps rounds : Nat}
    (cut : Ending.IsCut (evalRounds (eval context steps) frame condition body rounds after)) :
    Ending.IsCut (evalRounds (eval context steps) frame condition body (rounds + 1) world) := by
  rw [evalRounds_succ]
  -- Either the round itself is cut off, or it leads where it always does.
  rcases ComesTo.eval_eq (lasting_evalRound context frame condition body) round steps with
    ⟨between, ended⟩ | run
  · rw [bind_apply_error ended]
    exact ⟨between, rfl⟩
  · rw [bind_apply_ok run]
    exact cut

/-- A loop in which a round binds nothing is endless. -/
theorem Round.endless (settled : world.Settled region) (has : world.Has region frame)
    (round : Round context frame condition body world (.ok true after))
    (idle : Gainless frame world after) : Endless context frame condition body world := by
  -- However many rounds there may be, the next one is as idle as the last.
  intro steps rounds
  induction rounds generalizing world after with
  | zero => exact ⟨world, rfl⟩
  | succ rounds ih =>
    have leads := round.leads settled has
    obtain ⟨later, round', idle'⟩ := round.repeats settled has idle
    exact round.isCut_succ (ih leads.settled (has.mono leads.before) round' idle')

/-- A loop is endless if it is where some of its rounds lead. -/
theorem Iterates.endless {count : Nat} {last : World}
    (iterates : Iterates context frame condition body count world last)
    (endless : Endless context frame condition body last) :
    Endless context frame condition body world := by
  -- Endlessness is carried backwards, one round at a time.
  induction iterates with
  | none => exact endless
  | round first _ ih =>
    intro steps rounds
    cases rounds with
    | zero => exact ⟨_, rfl⟩
    | succ rounds => exact first.isCut_succ (ih endless steps rounds)

/-- Rounds lead on, as each of them does. -/
theorem Iterates.leads {count : Nat} {last : World} (settled : world.Settled region)
    (has : world.Has region frame)
    (iterates : Iterates context frame condition body count world last) :
    Leads region world last := by
  -- One round after the other, each from where the last one led.
  induction iterates with
  | none => exact .refl settled
  | round first _ ih =>
    have leads := first.leads settled has
    exact leads.trans (ih leads.settled (has.mono leads.before))

/-- A round that binds something in its frame leaves fewer names to bind. -/
theorem Round.card_lt (has : world.Has region frame)
    (round : Round context frame condition body world (.ok true after))
    (busy : ¬Gainless frame world after) :
    (freeTargets frame condition body after).card <
      (freeTargets frame condition body world).card := by
  -- Two facts are needed: no free name is added, and one is lost.
  have grown := round.grown
  obtain ⟨name, differs⟩ := not_forall.mp busy
  -- What is bound stays bound, so the name has been free, and it is bound now.
  have free : world.heap.binds frame name = false :=
    Bool.eq_false_iff.mpr fun bound => differs ((grown.binds_of_binds bound).trans bound.symm)
  have bound : after.heap.binds frame name = true := by
    rw [free] at differs
    exact Bool.eq_true_of_not_eq_false differs
  have target := (grown.gained has.2 free bound).2
  refine Finset.card_lt_card ((Finset.ssubset_iff_of_subset ?_).mpr ⟨name, ?_, ?_⟩)
  · -- Free names after the round were free before it.
    refine Finset.monotone_filter_right _ fun other _ free' => ?_
    exact Bool.eq_false_iff.mpr fun bound' =>
      Bool.eq_false_iff.mp free' (grown.binds_of_binds bound')
  · -- The name that was bound was free before.
    simp only [freeTargets, Finset.mem_filter, List.mem_toFinset]
    exact ⟨target, free⟩
  · -- It is free no more.
    simp [freeTargets, bound]

/-- A loop that ends has had as many rounds as there were names to bind, or fewer. -/
theorem exists_iterates (settled : world.Settled region) (has : world.Has region frame)
    {steps rounds : Nat} {value : Value}
    (ended : evalRounds (eval context steps) frame condition body rounds world = .ok value after) :
    value = .emptyList ∧ ∃ count last, Iterates context frame condition body count world last ∧
      Round context frame condition body last (.ok false after) ∧
      count ≤ (freeTargets frame condition body world).card := by
  -- The induction is on the rounds that there is room for, each of which holds the condition or
  -- not.
  induction rounds generalizing world with
  | zero => cases ended
  | succ rounds ih =>
    have whole := ended
    rw [evalRounds_succ] at ended
    cases run : evalRound (eval context steps) frame condition body world with
    | error stop between =>
      rw [bind_apply_error run] at ended
      cases ended
    | ok truth between =>
      rw [bind_apply_ok run] at ended
      have round : Round context frame condition body world (.ok truth between) :=
        round_ok_iff.mpr ⟨steps, run⟩
      cases truth with
      | false =>
        cases ended
        -- The condition fails at once, without any further rounds.
        exact ⟨rfl, 0, world, .none, round, Nat.zero_le _⟩
      | true =>
        have leads := round.leads settled has
        obtain ⟨empty, count, last, iterates, final, bounded⟩ :=
          ih leads.settled (has.mono leads.before) ended
        refine ⟨empty, count + 1, last, .round round iterates, final, ?_⟩
        -- Had it bound nothing, there would have been no end to it.
        have busy : ¬Gainless frame world between := fun idle => by
          have cut := round.endless settled has idle steps (rounds + 1)
          rw [whole] at cut
          exact Ending.not_isCut_ok cut
        have fewer := round.card_lt has busy
        omega

/-- A loop that comes to a value has a condition and a body, and goes through its rounds. -/
theorem exists_evalRounds {token : Option Name} {children : List Expr} {value : Value}
    (comes : Comes context (.node .loop token children) frame world (.ok value after)) :
    ∃ condition body steps rounds, children = [condition, body] ∧
      evalRounds (eval context steps) frame condition body rounds world = .ok value after := by
  -- An expression that comes to something has been given steps, and the node has two parts.
  obtain ⟨steps, ended, -⟩ := comes
  cases steps with
  | zero => cases ended
  | succ steps =>
    -- There are as many rounds as steps are left below the node of the loop.
    change (ofShape (Expr.pair .loop children) >>= fun parts =>
      evalRounds (eval context steps) frame parts.1 parts.2 steps) world = _ at ended
    cases shaped : Expr.pair .loop children with
    | error error =>
      rw [shaped] at ended
      cases ended
    | ok parts =>
      rw [shaped] at ended
      exact ⟨parts.1, parts.2, steps, steps, Expr.children_of_pair shaped, ended⟩

/-- What is endless is cut off as an expression too. -/
theorem Endless.eval (endless : Endless context frame condition body world)
    (token : Option Name) (steps : Nat) :
    Ending.IsCut (eval context steps (.node .loop token [condition, body]) frame world) := by
  -- Without steps the node is cut off itself, and with some its rounds are.
  cases steps with
  | zero => exact ⟨world, rfl⟩
  | succ steps => exact endless steps steps

end Rounds

namespace Interpreter

/-- A value that holds no functions but built-in ones has come about at any time. -/
theorem made_of_builtins {value : Value}
    (builtins : value.Only fun f => ∃ builtin, f = .builtin builtin) (region : Nat → Prop)
    (world : World) : value.Made region world := by
  -- The only functions in it are built in, and these are always there.
  intro function member
  obtain ⟨builtin, rfl⟩ := builtins function member
  trivial

/-- The library holds no functions but built-in ones. -/
theorem builtins_of_mem_library {entry : Name × Value} (member : entry ∈ library) :
    entry.2.Only fun f => ∃ builtin, f = .builtin builtin := by
  -- The list is made up of two constants and the functions.
  simp only [library, List.mem_cons, List.mem_map] at member
  rcases member with rfl | rfl | ⟨builtin, -, rfl⟩ <;> simp [Only, functions]

/-- All that is bound in a new interpreter has come about, if the host binds no functions. -/
theorem settled_start (settings : Settings) (separator : Char) {bindings : List (Name × Value)}
    (builtins : ∀ entry ∈ bindings, entry.2.Only fun f => ∃ builtin, f = .builtin builtin) :
    (start settings separator bindings).world.Settled fun _ => True := by
  -- At first there is one frame, and nothing is bound in it.
  have initially : World.initial.Settled fun _ => True := by
    refine ⟨rfl, fun _ _ => trivial, fun {frame outer} _ around => ?_,
      fun {frame name value} _ found => ?_⟩
    · rw [World.initial, parent?_initial] at around
      cases around
    · rw [World.initial, find?_initial] at found
      cases found
  refine holds_start settings separator initially fun entry member world settled => ?_
  refine settled.bind (made_of_builtins ?_ _ _) root entry.1
  exact (List.mem_append.mp member).elim (builtins entry) builtins_of_mem_library

/-- All that is bound in an interpreter has come about after an evaluation if it has before. -/
theorem settled_evalIn {interpreter : Interpreter} (host : Host) (expr : Expr) {frame : Nat}
    (settled : interpreter.world.Settled fun _ => True)
    (there : frame < interpreter.world.heap.next) :
    (interpreter.evalIn host expr frame).2.world.Settled fun _ => True := by
  -- The stock of what has come about is kept by evaluation, past the check of shapes.
  rw [evalIn, perform_eq]
  have upheld := upheld_settledStock (fun _ => True) (interpreter.context host)
  exact ((upheld.checked_keeps steps ⟨trivial, there⟩).leads_after ⟨rfl, settled⟩).holds.2

/--
Where no function of the host can be reached, a loop ends while it has names to bind, or never.

If it comes to a value, it has run its body no more often than there were names, among those of the
bindings and definitions in it outside the bodies of functions, that its frame did not bind yet. If
a round with its condition and its body has bound no name in the frame, the loop is cut off however
many steps it is given, which is to say that it comes neither to a value nor to a failure.

All that can be reached is taken to have come about: its frames are there, and its functions have
been counted. This is so in new interpreters, and evaluation leaves it so; functions with numbers
that have not been given out could not be told from those that the loop defines.
-/
theorem bounded_loop (context : Context) (frame : Nat) (world : World) (token : Option Name)
    (grounded : world.Grounded (· = frame)) (hostless : world.heap.Hostless (· = frame))
    (quiet : world.interrupted = false) :
    (∀ children value after,
      Comes context (.node .loop token children) frame world (.ok value after) →
      ∃ condition body count last, children = [condition, body] ∧ value = .emptyList ∧
        Iterates context frame condition body count world last ∧
        Round context frame condition body last (.ok false after) ∧
        count ≤ (freeTargets frame condition body world).card) ∧
    ∀ condition body count between after,
      Iterates context frame condition body count world between →
      Round context frame condition body between (.ok true after) →
      Gainless frame between after →
      ∀ steps, Ending.IsCut
        (eval context steps (.node .loop token [condition, body]) frame world) := by
  -- What is reached from the frame makes up the region, in which all has come about.
  have settled := grounded.settled hostless quiet
  have has : world.Has (world.heap.scope (· = frame)) frame :=
    ⟨.inl (.root rfl), grounded.frames frame (.root rfl)⟩
  constructor
  · -- A loop that comes to a value is a row of rounds with an end.
    intro children value after comes
    obtain ⟨condition, body, steps, rounds, parts, ended⟩ := exists_evalRounds comes
    obtain ⟨empty, count, last, iterates, final, bounded⟩ := exists_iterates settled has ended
    exact ⟨condition, body, count, last, parts, empty, iterates, final, bounded⟩
  · -- Up to the idle round the loop goes on, and from there it is endless.
    intro condition body count between after iterates round idle steps
    have leads := iterates.leads settled has
    have endless := round.endless leads.settled (has.mono leads.before) idle
    exact (iterates.endless endless).eval token steps

/-- A switch, which is on. -/
def switchedOn : Interpreter :=
  ((start { intrinsics := false } '.' [(⟨"RUNNING"⟩, .boolean true)]).child root).2

/-- The switch is turned off, in the frame in which this is evaluated. -/
def turnOff : Expr :=
  .plain .bind [.symbol ⟨"RUNNING"⟩, .constant (.boolean false)]

/-- A loop inside that turns the switch off runs once at most; one that does not look at it runs for
ever. -/
theorem bounded_loop_switchedOn :
    let context := switchedOn.context fun _ _ => ⟨.ok .emptyList, false⟩
    (∃ count last after,
      Iterates context 1 (.symbol ⟨"RUNNING"⟩) turnOff count switchedOn.world last ∧
      Round context 1 (.symbol ⟨"RUNNING"⟩) turnOff last (.ok false after) ∧ count ≤ 1) ∧
    ∀ steps, Ending.IsCut (eval context steps
      (.plain .loop [.constant (.boolean true), .constant (.integer 1)]) 1 switchedOn.world) := by
  intro context
  -- The switch is bound before the frame is made, so that nothing is left that has not come about.
  have settled : switchedOn.world.Settled fun _ => True :=
    (settled_start _ _ (by simp [Only, functions])).extend ⟨trivial, by decide⟩
  obtain ⟨grounded, hostless⟩ := settled.grounded fun frame (same : frame = 1) => by
    subst same
    decide
  obtain ⟨ends, never⟩ := bounded_loop context 1 switchedOn.world none grounded hostless rfl
  constructor
  · -- The first loop is given enough steps to come to a value.
    have checked : (switchedOn.perform (eval context 4
        (.plain .loop [.symbol ⟨"RUNNING"⟩, turnOff]) 1)).1.isOk = true := by decide +kernel
    cases run : eval context 4 (.plain .loop [.symbol ⟨"RUNNING"⟩, turnOff]) 1
        switchedOn.world with
    | error stop after =>
      rw [perform, run] at checked
      cases checked
    | ok value after =>
      obtain ⟨condition, body, count, last, parts, -, iterates, final, bounded⟩ :=
        ends _ value after ⟨4, run, Ending.not_isCut_ok⟩
      cases parts
      exact ⟨count, last, after, iterates, final, bounded⟩
  · exact never _ _ 0 _ _ .none (round_ok_iff.mpr ⟨1, rfl⟩) fun _ => rfl

end Interpreter

end Scriptlet

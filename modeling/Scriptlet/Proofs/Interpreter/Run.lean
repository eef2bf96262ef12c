import Scriptlet.Proofs.Build.Shape
import Scriptlet.Proofs.Machine.Validity

/-!
What a tree that is out of shape comes to when it is run.

Main statement: where a new interpreter fails for a shape only once it evaluates, the tree was built
to an expression with a pair outside of selections or with an unknown type.
-/

namespace Scriptlet

open Value

/-- Whether a world holds no functions of scripts, and the host has not been called in it. -/
structure World.Bare (world : World) : Prop where
  /-- No function of a script is bound. -/
  values : world.heap.FitWithin (fun _ => True) fun _ => False
  /-- The host knows of nothing. -/
  calls : world.hostCalls = []

/-- A world stays bare when something without functions is bound. -/
theorem World.Bare.bind {world : World} (bare : world.Bare) {value : Value}
    (plain : value.closures = []) (frame : Nat) (name : Name) :
    (world.bind frame name value).Bare where
  values := by
    rw [World.heap_bind]
    -- The value that is bound has no function of a script in it.
    refine bare.values.bind fun closure member => ?_
    rw [plain] at member
    cases member
  calls := by
    unfold World.bind
    -- The host is not called by a binding.
    split
    · exact bare.calls
    · rw [hostCalls_note]
      exact bare.calls

/-- The first world is bare. -/
theorem World.bare_initial : World.initial.Bare where
  values frame name value _ found := by
    rw [World.initial, Heap.find?_initial] at found
    cases found
  calls := rfl

namespace Interpreter

/-- A new interpreter that is given no functions of scripts has none. -/
theorem bare_start (settings : Settings) (separator : Char) {bindings : List (Name × Value)}
    (plain : ∀ entry ∈ bindings, entry.2.closures = []) :
    (start settings separator bindings).world.Bare := by
  -- Each of the bindings, and each of the library, is without functions of scripts.
  refine holds_start settings separator World.bare_initial fun entry member world bare => ?_
  rcases List.mem_append.mp member with given | known
  · exact bare.bind (plain entry given) root entry.1
  · exact bare.bind (closures_of_library entry known) root entry.1

/-- A run that does not stop at building stops at evaluating what has been built. -/
theorem evaluate_of_run {interpreter : Interpreter} {host : Host} {tree : Tree} {builder : Builder}
    {stop : Stop} (failed : (interpreter.run host tree builder).1 = .error (.stop stop)) :
    ∃ expr, builder.build interpreter.separator tree = .ok expr ∧
      (interpreter.evaluate host expr).1 = .error stop := by
  -- A tree that cannot be built makes the run fail before anything is evaluated.
  unfold run at failed
  cases built : builder.build interpreter.separator tree with
  | error fault =>
    rw [built] at failed
    cases failed
  | ok expr =>
    rw [built] at failed
    refine ⟨expr, rfl, ?_⟩
    -- The outcome of the evaluation is passed on, whatever it is.
    change (interpreter.evaluate host expr).1.mapError RunError.stop = _ at failed
    cases outcome : (interpreter.evaluate host expr).1 with
    | ok value =>
      rw [outcome] at failed
      cases failed
    | error other =>
      rw [outcome] at failed
      cases failed
      rfl

/--
A shape that a new interpreter finds fault with only when it evaluates is one it never checks.

The tree is then built all the same, to an expression in which a pair stands outside of selections
or a definition names a type that there is not; no other shape is left to evaluation.
-/
theorem flaw_of_run (settings : Settings) (separator : Char) (bindings : List (Name × Value))
    (host : Host) (tree : Tree) (builder : Builder) (error : ShapeError)
    (plain : ∀ entry ∈ bindings, entry.2.closures = []) (honest : host.Honest (fun _ => False) 0)
    (failed : ((start settings separator bindings).run host tree builder).1 =
      .error (.stop (.failed (.badShape error)))) :
    ∃ expr, builder.build separator tree = .ok expr ∧ expr.Flaw error ∧ error.Late := by
  have bare := bare_start settings separator plain
  -- Nothing that could be called was there at the start, and the host has nothing to add.
  have none (closure : Closure)
      (reached : (start settings separator bindings).world.heap.Reached (· = root) closure) :
      False := by
    obtain ⟨frame, name, value, -, found, member⟩ := reached
    exact bare.values frame name value trivial found closure member
  have honest' : host.Honest
      ((start settings separator bindings).world.heap.Reached (· = root))
      (start settings separator bindings).world.hostCalls.length := by
    rw [bare.calls]
    refine ⟨fun answered closure member => ?_, honest.errors⟩
    exact (honest.functions answered closure member).imp False.elim id
  obtain ⟨expr, built, stopped⟩ := evaluate_of_run failed
  have valid := (Build.inShape_ascend separator expr tree
    (Builder.ascend_of_build built)).validate_eq_ok
  have ends : EndsValid (· = root)
      ((start settings separator bindings).world.heap.Flaw (· = root) expr)
      ((start settings separator bindings).evaluate host expr) :=
    (endsValid_eval (· = root) root rfl valid
      (fun closure reached => (none closure reached).elim) honest').2
  -- There are no functions that could be called, so that it is the expression that has the flaw.
  rcases ends.failure error stopped with flaw | ⟨closure, reached, -⟩
  · exact ⟨expr, built, flaw, flaw.late⟩
  · exact (none closure reached).elim

/-- A function without a name whose parameter is declared with the name of no type, as a tree. -/
def unknownTypeTree : Tree :=
  .node .anonymousDefinition [
    .node .parameter [.node .symbol [.terminal "x"], .terminal ":",
      .node .symbol [.terminal "matrix"]],
    .node .block [.node .symbol [.terminal "x"]]]

/-- Both builders take the name for a type, and it is evaluation that finds that there is none. -/
theorem run_unknownTypeTree (builder : Builder) :
    ((start {} '.' []).run mute unknownTypeTree builder).1 =
      .error (.stop (.failed (.badShape ⟨.define, .unknownType ⟨"MATRIX"⟩⟩))) := by
  -- What is built is one closed tree, which evaluates the same either way.
  cases builder <;> rfl

/-- What evaluation finds fault with is there in what the visitor builds. -/
theorem flaw_of_run_unknownTypeTree :
    ((start {} '.' []).run mute unknownTypeTree .visitor).1 =
        .error (.stop (.failed (.badShape ⟨.define, .unknownType ⟨"MATRIX"⟩⟩))) ∧
      ∃ expr, Builder.visitor.build '.' unknownTypeTree = .ok expr ∧
        expr.Flaw ⟨.define, .unknownType ⟨"MATRIX"⟩⟩ ∧
        ShapeError.Late ⟨.define, .unknownType ⟨"MATRIX"⟩⟩ := by
  -- The host never answers, so that it is honest about anything.
  have failed := run_unknownTypeTree .visitor
  have honest : mute.Honest (fun _ => False) 0 := honest_mute _ 0
  exact ⟨failed, flaw_of_run {} '.' [] mute unknownTypeTree .visitor _ nofun honest failed⟩

end Interpreter

end Scriptlet

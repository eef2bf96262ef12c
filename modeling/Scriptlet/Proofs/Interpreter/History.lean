import Scriptlet.Proofs.Machine.Determinism

/-!
What an interpreter is asked to do over its life, and what stays true of it all the time.

Main statement: a value that has been kept is what evaluation would give at any later time.
-/

namespace Scriptlet

open Evaluation

/-- Something that an interpreter may be asked to do; a host may be another one every time. -/
inductive Request where
  /-- Evaluate an expression in the root frame. -/
  | evaluate (host : Host) (expr : Expr)
  /-- Evaluate an expression in the root frame, unless its value has been kept. -/
  | evaluateCached (host : Host) (expr : Expr)
  /-- Evaluate an expression in any frame. -/
  | evalIn (host : Host) (expr : Expr) (frame : Nat)
  /-- Evaluate what a tree means. -/
  | run (host : Host) (tree : Tree) (builder : Builder)
  /-- Call a function. -/
  | call (host : Host) (function : Function) (arguments : List Value)
  /-- Bind a name in a frame. -/
  | bind (frame : Nat) (name : Name) (value : Value)
  /-- Put a new frame into another. -/
  | child (frame : Nat)
  /-- Drop all bindings of a frame. -/
  | clear (frame : Nat)
  /-- Forget all values that were kept. -/
  | clearCache
  /-- Ask evaluations to stop, or no longer. -/
  | setInterrupted (interrupted : Bool)

namespace Interpreter

/-- The interpreter after it has done what it was asked to do. -/
def serve (interpreter : Interpreter) : Request → Interpreter
  | .evaluate host expr => (interpreter.evaluate host expr).2
  | .evaluateCached host expr => (interpreter.evaluateCached host expr).2
  | .evalIn host expr frame => (interpreter.evalIn host expr frame).2
  | .run host tree builder => (interpreter.run host tree builder).2
  | .call host function arguments => (interpreter.call host function arguments).2
  | .bind frame name value => (interpreter.bind frame name value).2
  | .child frame => (interpreter.child frame).2
  | .clear frame => interpreter.clear frame
  | .clearCache => interpreter.clearCache
  | .setInterrupted interrupted => interpreter.setInterrupted interrupted

/-- Whether as many calls are counted as given, and the root frame is there. -/
def Steady (level : Nat) (world : World) : Prop :=
  world.depth = level ∧ root < world.heap.next

/-- Whether evaluation of an expression has come to a value with the given settings. -/
def HasGiven (settings : Settings) (expr : Expr) (value : Value) : Prop :=
  ∃ (interpreter : Interpreter) (host : Host), interpreter.settings = settings ∧
    Steady 0 interpreter.world ∧ (interpreter.evaluate host expr).1 = .ok value

/-- What is true of an interpreter whenever it is not at work. -/
structure Sound (settings : Settings) (interpreter : Interpreter) : Prop where
  /-- The settings are those that it was made with. -/
  settings_eq : interpreter.settings = settings
  /-- No call is under way. -/
  steady : Steady 0 interpreter.world
  /-- Values are kept only of expressions that look no names up, and have been come to. -/
  cached : ∀ {expr value}, (expr, value) ∈ interpreter.cache →
    expr.isDeterministic = true ∧ HasGiven settings expr value

/-- Binding a name keeps the calls counted and the root frame there. -/
theorem Steady.bind {level : Nat} {world : World} (steady : Steady level world) (frame : Nat)
    (name : Name) (value : Value) : Steady level (world.bind frame name value) := by
  -- Neither count changes with a binding.
  rw [Steady, World.depth_bind, World.heap_bind, Heap.next_bind]
  exact steady

/-- A new frame keeps the root frame there. -/
theorem Steady.extend {level : Nat} {world : World} (steady : Steady level world) (frame : Nat) :
    Steady level { world with heap := world.heap.extend frame } := by
  -- There is one frame more, so the root is there as before.
  rw [Steady, Heap.next_extend]
  exact ⟨steady.1, Nat.lt_succ_of_lt steady.2⟩

/-- Evaluation counts every call that is under way, and the root frame stays. -/
def counting : Invariant where
  holds := Steady
  toPermission := .all
  noted _ steady := steady
  asked steady := steady
  bind _ steady := steady.bind _ _ _
  counted steady := steady
  deeper steady := ⟨congrArg (· + 1) steady.1, steady.2⟩
  leave steady := ⟨congrArg (· - 1) steady.1, steady.2⟩
  extend steady := steady.extend _
  inside _ := trivial
  fresh _ := trivial

variable {settings : Settings} {interpreter : Interpreter}

/-- Evaluating an expression keeps an interpreter sound. -/
theorem Sound.evalIn (sound : Sound settings interpreter) (host : Host) (expr : Expr)
    (frame : Nat) : Sound settings (interpreter.evalIn host expr frame).2 := by
  -- The settings and what is kept are not touched; the world keeps its counts.
  rw [Interpreter.evalIn, perform_eq]
  exact ⟨sound.settings_eq, counting.holds_after_checked 0 steps trivial sound.steady,
    sound.cached⟩

/-- Calling a function keeps an interpreter sound. -/
theorem Sound.call (sound : Sound settings interpreter) (host : Host) (function : Function)
    (arguments : List Value) : Sound settings (interpreter.call host function arguments).2 := by
  rw [Interpreter.call, perform_eq]
  exact ⟨sound.settings_eq, counting.holds_after_call 0 steps function arguments sound.steady,
    sound.cached⟩

/-- Keeping a value that has been come to keeps an interpreter sound. -/
theorem Sound.remember (sound : Sound settings interpreter) {expr : Expr} {value : Value}
    (given : HasGiven settings expr value) : Sound settings (interpreter.remember expr value) := by
  -- Whether anything is kept hangs on the expression alone.
  unfold Interpreter.remember
  split
  -- A value that hangs on its surroundings is not kept at all.
  case isFalse => exact sound
  case isTrue deterministic =>
    refine ⟨sound.settings_eq, sound.steady, fun member => ?_⟩
    -- Either it is the new entry, or one that was kept for the same reason before.
    rcases List.mem_cons.mp member with same | member
    · cases same
      exact ⟨deterministic, given⟩
    · exact sound.cached member

/-- Evaluating an expression unless its value is known keeps an interpreter sound. -/
theorem Sound.evaluateCached (sound : Sound settings interpreter) (host : Host) (expr : Expr) :
    Sound settings (interpreter.evaluateCached host expr).2 := by
  have evaluated := sound.evalIn host expr root
  unfold Interpreter.evaluateCached Interpreter.evaluate
  split
  -- A value that is known costs nothing and changes nothing.
  · exact sound
  · split
    case h_1 value after ended =>
      rw [ended] at evaluated
      exact evaluated.remember ⟨interpreter, host, sound.settings_eq, sound.steady,
        congrArg Prod.fst ended⟩
    case h_2 stop after ended =>
      rw [ended] at evaluated
      exact evaluated

/-- Whatever an interpreter is asked to do, it stays sound. -/
theorem Sound.serve (sound : Sound settings interpreter) (request : Request) :
    Sound settings (interpreter.serve request) := by
  -- All but the cached evaluation change the world alone, or the cache alone.
  cases request with
  | evaluate host expr => exact sound.evalIn host expr root
  | evaluateCached host expr => exact sound.evaluateCached host expr
  | evalIn host expr frame => exact sound.evalIn host expr frame
  | run host tree builder =>
    rw [Interpreter.serve, Interpreter.run]
    cases builder.build interpreter.separator tree with
    | error error => exact sound
    | ok expr => exact sound.evalIn host expr root
  | call host function arguments => exact sound.call host function arguments
  | bind frame name value =>
    exact ⟨sound.settings_eq, sound.steady.bind frame name value, sound.cached⟩
  | child frame => exact ⟨sound.settings_eq, sound.steady.extend frame, sound.cached⟩
  | clear frame =>
    -- What has been kept does not hang on any binding.
    refine ⟨sound.settings_eq, ⟨sound.steady.1, ?_⟩, sound.cached⟩
    simpa [Interpreter.serve, Interpreter.clear, Heap.clear, Heap.next] using sound.steady.2
  | clearCache =>
    exact ⟨sound.settings_eq, sound.steady, fun member => absurd member List.not_mem_nil⟩
  | setInterrupted interrupted => exact ⟨sound.settings_eq, sound.steady, sound.cached⟩

/-- A new interpreter is sound. -/
theorem sound_start (settings : Settings) (separator : Char) (bindings : List (Name × Value)) :
    Sound settings (start settings separator bindings) := by
  -- The root is made first, and bindings keep it there.
  have steady : Steady 0 (start settings separator bindings).world :=
    holds_start settings separator ⟨rfl, by decide⟩ fun entry _ world steady =>
      steady.bind root entry.1 entry.2
  exact ⟨rfl, steady, fun member => absurd member List.not_mem_nil⟩

/-- An interpreter is sound after anything it has been asked to do. -/
theorem sound_after (settings : Settings) (separator : Char) (bindings : List (Name × Value))
    (requests : List Request) :
    Sound settings (requests.foldl serve (start settings separator bindings)) := by
  -- One request after the other, from any sound interpreter.
  suffices run : ∀ interpreter, Sound settings interpreter →
      Sound settings (requests.foldl serve interpreter) from
    run _ (sound_start settings separator bindings)
  induction requests with
  | nil => exact fun _ sound => sound
  | cons request rest ih => exact fun _ sound => ih _ (sound.serve request)

/-- A sound interpreter keeps only values that evaluation would give at any time. -/
theorem Sound.evaluateCached_eq (sound : Sound settings interpreter) (host : Host) {expr : Expr}
    (anonymous : expr.isAnonymous = true) (quiet : interpreter.world.interrupted = false)
    (plain : ∀ value, (interpreter.evaluateCached host expr).1 = .ok value →
      value.closures = []) :
    (interpreter.evaluateCached host expr).1 = (interpreter.evaluate host expr).1 := by
  unfold Interpreter.evaluateCached at plain ⊢
  cases kept : interpreter.cached? expr with
  | none =>
    -- Nothing has been kept, so the expression is evaluated.
    simp only
    split
    case h_1 ended => rw [ended]
    case h_2 ended => rw [ended]
  | some value =>
    simp only [kept, Except.ok.injEq, forall_eq'] at plain ⊢
    obtain ⟨deterministic, earlier, host', settings_eq, steady, given⟩ :=
      sound.cached (mem_of_lookup kept)
    -- The value was come to before, so the earlier run was not stopped, whatever it was asked.
    have comparable : Comparable earlier interpreter root root :=
      ⟨settings_eq.trans sound.settings_eq.symm, steady.1.trans sound.steady.1.symm, quiet,
        steady.2, sound.steady.2⟩
    rcases comparable.evalIn_alike host' host ⟨deterministic, anonymous⟩ with
      ⟨-, stopped⟩ | alike
    · rw [evaluate, stopped] at given
      cases given
    · rw [evaluate] at given
      rw [given] at alike
      rw [evaluate]
      cases now : (interpreter.evalIn host expr root).1 with
      | error stop => simp [now, Alike] at alike
      | ok value' =>
        simp only [now, Alike] at alike
        rw [Value.Match.eq value value' (by simp [plain]) alike]

/-- Whether no call is under way in an interpreter, and it is not asked to stop. -/
def Idle (interpreter : Interpreter) : Prop :=
  interpreter.world.depth = 0 ∧ interpreter.world.interrupted = false

/--
An expression that looks no names up and names no functions comes to the same anywhere, any time.

Two idle interpreters with the same settings agree on it, in any frames that they have: they fail
alike, or yield the same but for how they number the functions that they make. All frames that were
there go on to bind what they bound. So, after anything that an interpreter has been asked to do,
a value without functions that it has kept is what evaluation would give.
-/
theorem deterministic_evaluation :
    (∀ (left right : Interpreter) (host host' : Host) (expr : Expr) (frame frame' : Nat),
      left.settings = right.settings → left.Idle → right.Idle →
      frame < left.world.heap.next → frame' < right.world.heap.next →
      expr.isDeterministic = true → expr.isAnonymous = true →
      (∀ steps,
        Alike (Value.Twin left.world right.world frame frame')
          (left.perform (eval (left.context host) steps expr frame)).1
          (right.perform (eval (right.context host') steps expr frame')).1 ∧
        Heap.Grown (fun _ _ => False) left.world.heap
          (left.perform (eval (left.context host) steps expr frame)).2.world.heap) ∧
      Alike (Value.Twin left.world right.world frame frame') (left.evalIn host expr frame).1
        (right.evalIn host' expr frame').1 ∧
      Heap.Grown (fun _ _ => False) left.world.heap
        (left.evalIn host expr frame).2.world.heap) ∧
    (∀ (settings : Settings) (separator : Char) (bindings : List (Name × Value))
      (requests : List Request) (interpreter : Interpreter) (host : Host) (expr : Expr),
      interpreter = requests.foldl serve (start settings separator bindings) →
      expr.isAnonymous = true → interpreter.world.interrupted = false →
      (∀ value, (interpreter.evaluateCached host expr).1 = .ok value → value.closures = []) →
      (interpreter.evaluateCached host expr).1 = (interpreter.evaluate host expr).1) := by
  refine ⟨?_, ?_⟩
  · intro left right host host' expr frame frame' settings_eq idle idle' old old' deterministic
      anonymous
    have closed : expr.Closed := ⟨deterministic, anonymous⟩
    have comparable : Comparable left right frame frame' :=
      ⟨settings_eq, idle.1.trans idle'.1.symm, idle'.2, old, old'⟩
    -- Neither run is asked to stop, so the first one is not excused.
    have running : ¬left.world.interrupted = true := by simp [idle.2]
    refine ⟨fun steps => ⟨?_, ?_⟩, ?_, ?_⟩
    · exact (comparable.eval_alike host host' closed steps).resolve_left fun asked =>
        running asked.1
    · rw [perform_eq]
      exact (Invariant.growth _ _).holds_after_eval 0 steps (admits_of_closed closed) (.refl _)
    · exact (comparable.evalIn_alike host host' closed).resolve_left fun asked => running asked.1
    · rw [evalIn, perform_eq]
      exact (Invariant.growth _ _).holds_after_checked 0 _ (admits_of_closed closed) (.refl _)
  · intro settings separator bindings requests interpreter host expr history anonymous quiet plain
    subst history
    exact (sound_after settings separator bindings requests).evaluateCached_eq host anonymous quiet
      plain

/-- The call of a function that is defined on the spot and yields one. -/
def constantCall : Expr :=
  .plain .call [.plain .define [.plain .sequence [.constant (.integer 1)]]]

/-- The call comes to the same whatever is bound, and kept or not after a change of the bindings. -/
theorem deterministic_constantCall :
    let host : Host := fun _ _ => ⟨.ok .emptyList, false⟩
    let left := start { intrinsics := false } '.' []
    let right := start { intrinsics := false } '.' [(⟨"X"⟩, .integer 1)]
    let changed := [.evaluateCached host constantCall, .bind root ⟨"X"⟩ (.integer 2),
      .clear root].foldl serve left
    left.Idle ∧ right.Idle ∧ changed.world.interrupted = false ∧
      Alike (Value.Twin left.world right.world root root) (left.evalIn host constantCall root).1
        (right.evalIn host constantCall root).1 ∧
      (changed.evaluateCached host constantCall).1 = .ok (.integer 1) ∧
      (changed.evaluateCached host constantCall).1 = (changed.evaluate host constantCall).1 := by
  intro host left right changed
  have idle : left.Idle := ⟨rfl, rfl⟩
  have idle' : right.Idle := ⟨rfl, rfl⟩
  have kept : (changed.evaluateCached host constantCall).1 = .ok (.integer 1) := rfl
  refine ⟨idle, idle', rfl, ?_, kept, ?_⟩
  · exact (deterministic_evaluation.1 left right host host constantCall root root rfl idle idle'
      (by decide) (by decide) rfl rfl).2.1
  · refine deterministic_evaluation.2 { intrinsics := false } '.' [] _ changed host constantCall rfl
      rfl rfl fun value found => ?_
    rw [kept] at found
    cases found
    rfl

end Interpreter

end Scriptlet

import Scriptlet.Machine.Call

/-!
What a call has to pass before its function starts.

It is asked first whether to stop, then the arguments are checked, and then there has to be room for
one more call. Main statement: a call comes to one of these failures, or to what its function does.
-/

namespace Scriptlet

namespace World

/-- The world once a function has been entered. -/
def enter (world : World) (function : Function) (arguments : List Value) : World :=
  { world with depth := world.depth + 1 }.note (.entered function arguments)

/-- The world once the host has answered, which may ask the run to stop. -/
def heed (world : World) (reply : HostReply) : World :=
  { world with interrupted := world.interrupted || reply.interrupts }

end World

/-- The limit of calls under way, once as many of them are. -/
def Context.full? (context : Context) (world : World) : Option Nat :=
  context.settings.maxDepth.filter (· ≤ world.depth)

variable {context context' : Context} {world world' : World} {limit : Nat}

/-- There is no room for a call exactly if there is a limit, and as many calls are under way. -/
theorem Context.full?_eq_some_iff :
    context.full? world = some limit ↔
      context.settings.maxDepth = some limit ∧ limit ≤ world.depth := by
  -- The limit is kept only where it has been reached.
  simp [Context.full?, Option.filter_eq_some_iff]

/-- There is room for a call exactly if the limit, where there is one, has not been reached. -/
theorem Context.full?_eq_none_iff :
    context.full? world = none ↔
      ∀ limit, context.settings.maxDepth = some limit → world.depth < limit := by
  -- The limit is dropped unless it has been reached.
  simp [Context.full?, Option.filter_eq_none_iff]

/-- Whether there is room hangs on the limit and on the calls under way, and on nothing else. -/
theorem Context.full?_congr (limits : context.settings.maxDepth = context'.settings.maxDepth)
    (depths : world.depth = world'.depth) : context.full? world = context'.full? world' := by
  -- The test reads these two and nothing else of either side.
  rw [Context.full?, Context.full?, limits, depths]

namespace Evaluation

/-- A look at whether to stop is written down, and then it is stopped or not. -/
theorem poll_apply (world : World) :
    poll world =
      if world.interrupted then (raise .interrupted : Evaluation Unit) (world.note .polled)
      else .ok () (world.note .polled) := by
  change (if (world.note .polled).interrupted then raise .interrupted else pure () :
    Evaluation Unit) (world.note .polled) = _
  -- Writing down that it was asked does not change the answer.
  have same : (world.note .polled).interrupted = world.interrupted := rfl
  rw [same]
  split <;> rfl

/-- A look at whether there is room fails if there is none, and does nothing otherwise. -/
theorem checkDepth_apply (context : Context) (world : World) :
    checkDepth context world =
      match context.full? world with
      | some limit => (raise (.tooDeep limit) : Evaluation Unit) world
      | none => .ok () world := by
  -- Without a limit there is always room, and otherwise the limit is compared with the calls.
  unfold checkDepth Context.full?
  cases context.settings.maxDepth with
  | none => rfl
  | some limit =>
    change (if limit ≤ world.depth then raise (.tooDeep limit) else pure () : Evaluation Unit)
      world = _
    by_cases full : limit ≤ world.depth
    · simp [Option.filter, full]
    · simp only [Option.filter, full, decide_false, if_false]
      rfl

/-- Something done as a call starts with the call counted, and the call is left at its end. -/
theorem underWay_apply (function : Function) (arguments : List Value) (body : Evaluation Value)
    (world : World) :
    underWay function arguments body world =
      match body (world.enter function arguments) with
      | .ok value after => .ok value (afterCall after)
      | .error stop after => .error stop (afterCall after) := rfl

/-- The host is asked once, with all calls before this one, and its answer is what comes out. -/
theorem runHost_apply (context : Context) (function : HostFunction) (arguments : List Value)
    (world : World) :
    runHost context function arguments (world.enter (.host function) arguments) =
      let reply := context.host world.hostCalls ⟨function, arguments⟩
      let told := (world.enter (.host function) arguments).heed reply
      match reply.result with
      | .ok value => .ok value told
      | .error error => .error (.failed error) (told.note (.hostRaised error)) := by
  change (do
    if (context.host world.hostCalls ⟨function, arguments⟩).interrupts then
      modify fun world => { world with interrupted := true }
    match (context.host world.hostCalls ⟨function, arguments⟩).result with
    | .ok value => return value
    | .error error =>
      note (.hostRaised error)
      throw (.failed error) : Evaluation Value) (world.enter (.host function) arguments) = _
  -- Whether or not it asks the run to stop, its answer is a value or a failure.
  cases context.host world.hostCalls ⟨function, arguments⟩ with
  | mk result interrupts => cases interrupts <;> cases result <;> simp [World.heed] <;> rfl

/-- A call is asked to stop, or its arguments are wrong, or there is no room, or it goes ahead. -/
theorem call_apply (context : Context) (self : Evaluator) (function : Function)
    (arguments : List Value) (world : World) :
    call context self function arguments world =
      if world.interrupted then (raise .interrupted : Evaluation Value) (world.note .polled)
      else
        match function.checkArguments arguments, context.full? world with
        | .error error, _ => (raise error : Evaluation Value) (world.note .polled)
        | .ok _, some limit => (raise (.tooDeep limit) : Evaluation Value) (world.note .polled)
        | .ok checked, none =>
          match run context self function checked ((world.note .polled).enter function checked) with
          | .ok value after => ofExcept (function.checkResult value) (afterCall after)
          | .error stop after => .error stop (afterCall after) := by
  -- The checks are gone through in the order in which they are made; each ends the call or is
  -- passed.
  simp only [call, Bind.bind, EStateM.bind, poll_apply]
  cases world.interrupted with
  | true => rfl
  | false =>
    cases function.checkArguments arguments with
    | error error => rfl
    | ok checked =>
      -- Having been asked is no call, and leaves as much room as there was.
      have same : context.full? (world.note .polled) = context.full? world := rfl
      simp only [Bool.false_eq_true, if_false, ofExcept, Pure.pure, EStateM.pure, checkDepth_apply,
        same, underWay_apply]
      cases context.full? world with
      | some limit => rfl
      | none =>
        dsimp only
        cases run context self function checked ((world.note .polled).enter function checked)
        all_goals rfl

end Evaluation

end Scriptlet

import Scriptlet.Proofs.Interpreter.Service

/-!
How many calls are under way, and how many may be.

Main statement: the count is right at every moment, it never passes the limit, and it is back where
it was after every request. A call is refused for want of room exactly if nothing else is wrong.
-/

namespace Scriptlet

open Evaluation

/-- How many of the calls that have been entered are yet to be left. -/
def openCalls : List Entry → Nat
  | [] => 0
  | entry :: older =>
    match entry.happening with
    | .entered .. => openCalls older + 1
    | .left => openCalls older - 1
    | _ => openCalls older

/-- What each entry tells about the calls under way, given those written before it. -/
structure Counted (maxDepth : Option Nat) (entry : Entry) (older : List Entry) : Prop where
  /-- As many calls are counted as have been entered and not left. -/
  depth_eq : entry.depth = openCalls (entry :: older)
  /-- They are no more than there may be. -/
  within : ∀ limit, maxDepth = some limit → entry.depth ≤ limit
  /-- Where there is no room for a call, there may be so many, and there are. -/
  full : ∀ limit, entry.happening = .raised (.tooDeep limit) →
    maxDepth = some limit ∧ entry.depth = limit ∧ ∃ rest, older = ⟨.polled, limit, false⟩ :: rest

/-- Whether the calls under way are counted in a world, and were all along. -/
structure Counts (maxDepth : Option Nat) (level : Nat) (since : List Entry) (world : World) :
    Prop where
  /-- The world counts them. -/
  depth_eq : world.depth = level
  /-- The entries tell of them. -/
  openCalls_eq : openCalls since = level
  /-- They are no more than there may be. -/
  within : ∀ limit, maxDepth = some limit → level ≤ limit
  /-- So it has been with every entry. -/
  kept : Kept (Counted maxDepth) since

namespace Counts

variable {maxDepth : Option Nat} {level : Nat} {since : List Entry} {world : World}

/-- An entry with the right count keeps the count, if it tells rightly of calls without room. -/
theorem write {level' : Nat} {world' : World} {entry : Entry}
    (counts : Counts maxDepth level since world) (depth_eq : world'.depth = level')
    (told : entry.depth = level') (opened : openCalls (entry :: since) = level')
    (within : ∀ limit, maxDepth = some limit → level' ≤ limit)
    (full : ∀ limit, entry.happening = .raised (.tooDeep limit) → maxDepth = some limit ∧
      entry.depth = limit ∧ ∃ rest, since = ⟨.polled, limit, false⟩ :: rest) :
    Counts maxDepth level' (entry :: since) world' := by
  refine ⟨depth_eq, opened, within, kept_cons.mpr ⟨⟨told.trans opened.symm, ?_, full⟩, counts.kept⟩⟩
  -- The entry tells of no more calls than the world counts.
  intro limit limited
  rw [told]
  exact within limit limited

/-- What happens other than that a call is entered or left, or refused, leaves the count. -/
theorem note (counts : Counts maxDepth level since world) (happening : Happening)
    (still : openCalls (world.entry happening :: since) = openCalls since)
    (calm : ∀ limit, happening ≠ .raised (.tooDeep limit)) :
    Counts maxDepth level (world.entry happening :: since) (world.note happening) := by
  -- The happening opens no call and leaves none.
  have open_eq := still.trans counts.openCalls_eq
  refine counts.write counts.depth_eq counts.depth_eq open_eq counts.within ?_
  intro limit raised
  exact absurd raised (calm limit)

/-- A call that is entered is one more, for which there is room. -/
theorem enter {context : Context} (counts : Counts context.settings.maxDepth level since world)
    (function : Function) (arguments : List Value) (room : context.full? world = none) :
    Counts context.settings.maxDepth (level + 1) (world.entering function arguments :: since)
      (world.enter function arguments) := by
  -- Both counts go up by one.
  have depth_eq : world.depth + 1 = level + 1 := congrArg (· + 1) counts.depth_eq
  refine counts.write depth_eq depth_eq (congrArg (· + 1) counts.openCalls_eq) ?_ nofun
  -- There was room for it, so that it is at most the last one that there may be.
  intro limit limited
  have below := Context.full?_eq_none_iff.mp room limit limited
  omega

/-- A call that is left is one less. -/
theorem left (counts : Counts maxDepth (level + 1) since world) :
    Counts maxDepth level (world.leaving :: since) (afterCall world) := by
  -- There is a call to be left, so that nothing is cut off at zero.
  have depth_eq : world.depth - 1 = level := congrArg (· - 1) counts.depth_eq
  refine counts.write depth_eq depth_eq (congrArg (· - 1) counts.openCalls_eq) ?_ nofun
  intro limit limited
  have within := counts.within limit limited
  omega

/-- A change of anything but the count leaves it right. -/
theorem congr (counts : Counts maxDepth level since world) (world' : World)
    (same : world'.depth = world.depth) : Counts maxDepth level since world' :=
  -- The count does not hang on anything else of the world.
  { counts with depth_eq := same.trans counts.depth_eq }

/-- A call that finds no room finds as many calls under way as there may be. -/
theorem tooDeep {context : Context} {limit : Nat}
    (counts : Counts context.settings.maxDepth level since world)
    (clear : world.interrupted = false) (full : context.full? world = some limit) :
    Counts context.settings.maxDepth level
      (world.entry (.raised (.tooDeep limit)) :: world.entry .polled :: since)
      ((world.note .polled).note (.raised (.tooDeep limit))) := by
  -- The poll comes first, and the refusal is written on top of it.
  have polled := counts.note .polled rfl nofun
  obtain ⟨limited, reached⟩ := Context.full?_eq_some_iff.mp full
  -- The limit has been reached, and it has not been passed so far.
  have depth_eq : world.depth = limit := by
    have within := counts.within limit limited
    have counted := counts.depth_eq
    omega
  refine polled.write counts.depth_eq counts.depth_eq counts.openCalls_eq counts.within ?_
  intro other raised
  cases raised
  refine ⟨limited, depth_eq, since, ?_⟩
  rw [World.entry, depth_eq, clear]

variable {context : Context} {level' : Nat} {written : List Entry} {world' : World}

/-- A step counts what it enters and leaves. -/
theorem step (counts : Counts context.settings.maxDepth level since world)
    (step : Step context level world written level' world') :
    Counts context.settings.maxDepth level' (written ++ since) world' := by
  -- Only where a call is entered or left does the count change.
  cases step with
  | polled clear => exact counts.note .polled rfl nofun
  | tested clear => exact counts.note .tested rfl nofun
  | @bound _ _ frame name value free =>
    exact (counts.note (.bound frame name) rfl nofun).congr _ (World.depth_bind ..)
  | defined | extended parent => exact counts.congr _ rfl
  | entered arguments own clear room => exact counts.enter _ arguments room
  | answered clear room answer => exact (counts.enter _ _ room).congr _ rfl
  | left => exact counts.left

/-- A fault leaves the count as it is, but for a call that the host refuses. -/
theorem fault {error : EvalError} (counts : Counts context.settings.maxDepth level since world)
    (fault : Fault context level world written level' error world') :
    Counts context.settings.maxDepth level' (written ++ since) world' := by
  -- Each fault writes its error down, some of them behind a poll or a call that has been entered.
  cases fault with
  | raised calm roomy =>
    exact counts.note (.raised error) rfl fun limit same => roomy limit (Happening.raised.inj same)
  | interrupted asked => exact (counts.note .polled rfl nofun).note (.raised .interrupted) rfl nofun
  | tooDeep clear full => exact counts.tooDeep clear full
  | @refused function arguments _ clear room answer =>
    -- What the host answers may change the wish to stop, which has nothing to do with the count.
    have answered := (counts.enter (.host function) arguments room).congr
      ((world.enter (.host function) arguments).heed
        (context.host world.hostCalls ⟨function, arguments⟩)) rfl
    exact answered.note (.hostRaised error) rfl nofun

/-- Whatever a run does, the calls under way are counted, and none is left at its end. -/
theorem of_ran {α : Type} {start final : World} {outcome : Except Stop α}
    (idle : start.depth = 0) (ran : Ran context start outcome since final) :
    Counts context.settings.maxDepth 0 since final :=
  ran.keeps _ ⟨idle, rfl, fun _ _ => Nat.zero_le _, kept_nil⟩ Counts.step Counts.fault

end Counts

/-- Whatever a run does, as many calls are counted at its end as at its start. -/
theorem Ran.depth_eq {α : Type} {context : Context} {start final : World} {outcome : Except Stop α}
    {since : List Entry} (ran : Ran context start outcome since final) :
    final.depth = start.depth := by
  -- The level is what has been entered and not left since the start.
  refine ran.keeps (fun level _ world => world.depth = start.depth + level) rfl
    (fun held step => ?_) fun held fault => ?_
  · -- The count goes along with the level, which is back at zero at the end.
    cases step
    case bound => exact (World.depth_bind ..).trans held
    case entered | answered => exact congrArg (· + 1) held
    case left => exact congrArg (· - 1) held
    all_goals exact held
  · cases fault
    case refused => exact congrArg (· + 1) held
    all_goals exact held

namespace Evaluation

/-- A call is refused for want of room exactly if there is none and nothing else is wrong. -/
theorem call_eq_tooDeep_iff (context : Context) (self : Evaluator) (function : Function)
    (arguments : List Value) (world : World) (limit : Nat) :
    call context self function arguments world = .error (.failed (.tooDeep limit))
        ((world.note .polled).note (.raised (.tooDeep limit))) ↔
      world.interrupted = false ∧ (∃ checked, function.checkArguments arguments = .ok checked) ∧
        context.settings.maxDepth = some limit ∧ limit ≤ world.depth := by
  rw [call_apply, ← Context.full?_eq_some_iff]
  -- The checks come one after the other, and the call fails for the first that it does not pass.
  cases world.interrupted with
  | true => exact ⟨(nomatch ·), (nomatch ·.1)⟩
  | false =>
    rw [if_neg Bool.false_ne_true]
    cases checks : function.checkArguments arguments with
    | error error =>
      constructor
      · intro failed
        -- The check of arguments never fails for want of room.
        cases failed
        exact (function.checkArguments_failsPlainly arguments _ checks).elim
      · rintro ⟨-, ⟨checked, found⟩, -⟩
        cases found
    | ok checked =>
      cases context.full? world with
      | some reached =>
        constructor
        · intro failed
          cases failed
          exact ⟨rfl, ⟨checked, rfl⟩, rfl⟩
        · rintro ⟨-, -, reached⟩
          cases reached
          rfl
      | none =>
        refine ⟨fun failed => ?_, fun passed => nomatch passed.2.2⟩
        dsimp only at failed
        split at failed
        case h_1 value after ended =>
          -- Only the check of the result may fail yet, and never for want of room.
          cases result : function.checkResult value with
          | ok found =>
            rw [result] at failed
            cases failed
          | error error =>
            rw [result] at failed
            injection failed with stops
            cases stops
            exact (function.checkResult_failsPlainly value _ result : False).elim
        case h_2 stop after ended =>
          -- The last thing that the call writes down is that it is left.
          injection failed with _ worlds
          cases congrArg (fun world : World => world.journal.head?.map Entry.happening) worlds

end Evaluation

section Service

variable {interpreter : Interpreter} {request : Request} {world : World}

/-- However a request is served, as many calls are counted afterwards as before. -/
theorem Service.depth_eq (service : Service interpreter request world) :
    world.depth = interpreter.world.depth := by
  -- A run has left all calls that it entered, and nothing else enters any.
  cases service with
  | ran ran => exact ran.depth_eq
  | bound frame name value => exact World.depth_bind ..
  | idle | framed heap | asked interrupted => rfl

/-- However a request is served while no call is under way, calls are counted all along. -/
theorem Service.counts (service : Service interpreter request world)
    (idle : interpreter.world.depth = 0) :
    ∃ since, world.journal = since ++ interpreter.world.journal ∧
      Counts interpreter.settings.maxDepth 0 since world := by
  have initially : Counts interpreter.settings.maxDepth 0 [] interpreter.world :=
    ⟨idle, rfl, fun _ _ => Nat.zero_le _, kept_nil⟩
  -- Only a run enters calls, and what other services write is no call.
  cases service with
  | @ran _ host since final outcome ran => exact ⟨since, ran.journal_eq, .of_ran idle ran⟩
  | bound frame name value =>
    unfold World.bind
    split
    · exact ⟨[], rfl, initially⟩
    · exact ⟨[_], rfl, (initially.note (.bound frame name) rfl nofun).congr _ rfl⟩
  | idle | framed heap | asked interrupted => exact ⟨[], rfl, initially.congr _ rfl⟩

end Service

namespace Interpreter

/--
The calls under way are counted at every moment, and none is left over by anything.

Whatever an interpreter is asked to do, and however it ends, the count is what it was before. After
any history no call is under way; while the next request is served, each entry has the number of the
calls that have been entered and not left, which is never above the limit, and a call is refused for
want of room only where as many are under way as may be. A call is refused so exactly if it is not
to stop, its arguments pass the check, and the limit has been reached.
-/
theorem counted_evaluation :
    (∀ (interpreter : Interpreter) (request : Request),
      (interpreter.serve request).world.depth = interpreter.world.depth) ∧
    (∀ (settings : Settings) (separator : Char) (bindings : List (Name × Value))
      (requests : List Request),
      (requests.foldl serve (start settings separator bindings)).world.depth = 0 ∧
      ∀ request, ∃ since,
        ((requests ++ [request]).foldl serve (start settings separator bindings)).world.journal =
          since ++ (requests.foldl serve (start settings separator bindings)).world.journal ∧
        Kept (Counted settings.maxDepth) since ∧ openCalls since = 0) ∧
    (∀ (context : Context) (self : Evaluator) (function : Function) (arguments : List Value)
      (world : World) (limit : Nat),
      Evaluation.call context self function arguments world =
          .error (.failed (.tooDeep limit)) ((world.note .polled).note (.raised (.tooDeep limit))) ↔
        world.interrupted = false ∧ (∃ checked, function.checkArguments arguments = .ok checked) ∧
          context.settings.maxDepth = some limit ∧ limit ≤ world.depth) := by
  refine ⟨fun interpreter request => (interpreter.service request).depth_eq,
    fun settings separator bindings requests => ?_, call_eq_tooDeep_iff⟩
  -- After any history no call is under way, and so the next request starts from none.
  have sound := sound_after settings separator bindings requests
  refine ⟨sound.steady.1, fun request => ?_⟩
  rw [List.foldl_append]
  obtain ⟨since, written, counts⟩ := (service _ request).counts sound.steady.1
  rw [sound.settings_eq] at counts
  exact ⟨since, written, counts.kept, counts.openCalls_eq⟩

end Interpreter

end Scriptlet

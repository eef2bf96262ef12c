import Scriptlet.Proofs.Machine.Course

/-!
The wish to stop: who utters it in a run, and what the run does about it.

Main statement: from the moment a run is to stop, no function is entered and no condition of a loop
is tested, and the run stops where it next asks.
-/

namespace Scriptlet

/-- Whether a run is to stop: it was at its start, or the host has asked it to in a call since. -/
def toStop (host : Host) (start : World) : List Entry → Bool
  | [] => start.interrupted
  | entry :: older =>
    toStop host start older ||
      (World.hostCall? entry).any fun call => (host.reply (older ++ start.journal) call).interrupts

/-- Whether an entry tells that a function starts, or that the condition of a loop is tested. -/
def Entry.begins (entry : Entry) : Bool :=
  match entry.happening with
  | .entered .. | .tested => true
  | _ => false

/-- What each entry tells about the wish to stop, given those written before it. -/
structure Heeded (host : Host) (start : World) (entry : Entry) (older : List Entry) : Prop where
  /-- It tells rightly whether the run is to stop. -/
  interrupted_eq : entry.interrupted = toStop host start older
  /-- Nothing begins in a run that is to stop. -/
  rests : toStop host start older = true → entry.begins = false
  /-- Where the run stops for that, it is to, and has just asked. -/
  stops : entry.happening = .raised .interrupted → toStop host start older = true ∧
    ∃ poll rest, older = poll :: rest ∧ poll.happening = .polled

variable {context : Context} {host : Host} {start : World}

/-- A run that is to stop at its start is to stop all along. -/
theorem toStop_of_interrupted (asked : start.interrupted = true) (since : List Entry) :
    toStop host start since = true := by
  -- By induction on what was written since the start, which can only add to the wish.
  induction since with
  | nil => exact asked
  | cons entry older ih => rw [toStop, ih, Bool.true_or]

/-- Whether a world knows if the run is to stop, and everything went by that all along. -/
structure Minds (host : Host) (start : World) (since : List Entry) (world : World) : Prop where
  /-- All that was written is in the journal. -/
  journal_eq : world.journal = since ++ start.journal
  /-- The world knows. -/
  interrupted_eq : world.interrupted = toStop host start since
  /-- So it has been with every entry. -/
  kept : Kept (Heeded host start) since

namespace Minds

variable {level level' : Nat} {since written : List Entry} {world world' : World}

/-- An entry that goes by the wish to stop keeps the mind on it, if the world heeds the host. -/
theorem write {entry : Entry} (minds : Minds host start since world)
    (journal_eq : world'.journal = entry :: world.journal)
    (told : entry.interrupted = world.interrupted)
    (heeds : world'.interrupted = (world.interrupted ||
      (World.hostCall? entry).any fun call => (host.reply world.journal call).interrupts))
    (rests : world.interrupted = true → entry.begins = false)
    (stops : entry.happening = .raised .interrupted → world.interrupted = true ∧
      ∃ poll rest, since = poll :: rest ∧ poll.happening = .polled) :
    Minds host start (entry :: since) world' := by
  -- What is in the journal, what the world knows, and what the entry tells are looked at in turn.
  refine ⟨?_, ?_, kept_cons.mpr ⟨⟨?_, ?_, ?_⟩, minds.kept⟩⟩
  · rw [journal_eq, minds.journal_eq, List.cons_append]
  · rw [heeds, toStop, minds.interrupted_eq, minds.journal_eq]
  -- What the world knows before the entry is what the entries before it tell.
  · exact told.trans minds.interrupted_eq
  · intro asked
    exact rests (minds.interrupted_eq.trans asked)
  · intro raised
    obtain ⟨asked, polled⟩ := stops raised
    exact ⟨minds.interrupted_eq.symm.trans asked, polled⟩

/-- What is neither a call of the host nor begins or stops anything keeps the mind on the wish. -/
theorem note (minds : Minds host start since world) (happening : Happening)
    (silent : World.hostCall? (world.entry happening) = none)
    (rests : world.interrupted = true → (world.entry happening).begins = false)
    (stops : happening ≠ .raised .interrupted) :
    Minds host start (world.entry happening :: since) (world.note happening) := by
  refine minds.write rfl rfl ?_ rests fun raised => absurd raised stops
  -- Nobody is asked by it, so that the wish stays as it is.
  rw [silent, Option.any_none, Bool.or_false]
  rfl

/-- What leaves the journal and the wish alone keeps the mind on it. -/
theorem congr (minds : Minds host start since world) (world' : World)
    (journals : world'.journal = world.journal) (same : world'.interrupted = world.interrupted) :
    Minds host start since world' :=
  ⟨journals.trans minds.journal_eq, same.trans minds.interrupted_eq, minds.kept⟩

/-- A function that is entered in a run that is not to stop may ask it to, if it is the host's. -/
theorem enter (minds : Minds host start since world) (function : Function)
    (arguments : List Value) (clear : world.interrupted = false)
    (journal_eq : world'.journal = world.entering function arguments :: world.journal)
    (heeds : world'.interrupted = (world.interrupted ||
      (World.hostCall? (world.entering function arguments)).any fun call =>
        (host.reply world.journal call).interrupts)) :
    Minds host start (world.entering function arguments :: since) world' :=
  minds.write journal_eq rfl heeds (fun asked => nomatch clear.symm.trans asked) nofun

/-- Every step keeps the mind on the wish. -/
theorem step (minds : Minds context.host start since world)
    (step : Step context level world written level' world') :
    Minds context.host start (written ++ since) world' := by
  -- Whatever begins, begins in a world that is not to stop.
  cases step with
  | polled clear => exact minds.note .polled rfl (fun _ => rfl) nofun
  | tested clear => exact minds.note .tested rfl (fun asked => nomatch clear.symm.trans asked) nofun
  | @bound _ _ frame name value free =>
    have noted := minds.note (.bound frame name) rfl (fun _ => rfl) nofun
    rw [World.bind_of_free value free]
    exact noted.congr _ rfl rfl
  | defined | extended parent => exact minds.congr _ rfl rfl
  | @entered _ _ function arguments own clear room =>
    refine minds.enter function arguments clear rfl ?_
    -- Only functions of the host could utter the wish.
    cases function with
    | host function => exact absurd rfl (own function)
    | closure | builtin => exact (Bool.or_false _).symm
  | answered clear room answer => exact minds.enter _ _ clear rfl rfl
  | left => exact minds.write rfl rfl (Bool.or_false _).symm (fun _ => rfl) nofun

/-- Every fault keeps the mind on the wish. -/
theorem fault {error : EvalError} (minds : Minds context.host start since world)
    (fault : Fault context level world written level' error world') :
    Minds context.host start (written ++ since) world' := by
  -- The run may stop for the wish itself, or for something else that it comes to.
  cases fault with
  | raised calm roomy =>
    exact minds.note (.raised error) rfl (fun _ => rfl) fun same =>
      calm (Happening.raised.inj same)
  | interrupted asked =>
    have polled := minds.note .polled rfl (fun _ => rfl) nofun
    -- Here the run stops for the wish, having just asked.
    refine polled.write rfl rfl (Bool.or_false _).symm (fun _ => rfl) ?_
    exact fun _ => ⟨asked, _, _, rfl, rfl⟩
  | tooDeep clear full =>
    have polled := minds.note .polled rfl (fun _ => rfl) nofun
    exact polled.note _ rfl (fun _ => rfl) nofun
  | @refused function arguments _ clear room answer =>
    have entered : Minds context.host start (world.entering (.host function) arguments :: since)
        ((world.enter (.host function) arguments).heed
          (context.host world.hostCalls ⟨function, arguments⟩)) :=
      minds.enter _ _ clear rfl rfl
    exact entered.note (.hostRaised error) rfl (fun _ => rfl) nofun

/-- A run has the wish in mind all along. -/
theorem of_ran {α : Type} {final : World} {outcome : Except Stop α}
    (ran : Ran context start outcome since final) : Minds context.host start since final :=
  ran.keeps (fun _ => Minds context.host start) ⟨rfl, rfl, kept_nil⟩ Minds.step Minds.fault

/-- In a run that is to stop from its start, nothing begins, and it is still to stop at its end. -/
theorem of_interrupted (minds : Minds host start since world) (asked : start.interrupted = true) :
    world.interrupted = true ∧ ∀ entry ∈ since, entry.begins = false := by
  -- The world knows at the end, and so did every entry.
  refine ⟨minds.interrupted_eq.trans (toStop_of_interrupted asked since), ?_⟩
  intro entry member
  -- The wish was there before the entry, as it was at the start.
  obtain ⟨newer, older, split⟩ := List.append_of_mem member
  exact (minds.kept entry older ⟨newer, split.symm⟩).rests (toStop_of_interrupted asked older)

end Minds

section Interrupted

variable {level : Nat} {since : List Entry} {world : World} (asked : start.interrupted = true)

include asked

/-- A run that is to stop from its start goes on only as long as it does not ask. -/
theorem Course.ne_polled (course : Course context start level since world) :
    world.interrupted = true ∧ ∀ entry ∈ since, entry.happening ≠ .polled := by
  -- Held of all states: the wish is there, and no entry tells that it was asked for.
  refine course.keeps (fun _ since world => world.interrupted = true ∧
    ∀ entry ∈ since, entry.happening ≠ .polled) ⟨asked, by simp⟩ fun held step => ?_
  obtain ⟨still, silent⟩ := held
  cases step
  -- Where it is asked, or something begins, the run would have to be one that is not to stop.
  case polled clear | tested clear | entered clear _ | answered clear _ _ =>
    cases clear.symm.trans still
  case bound frame name value free =>
    exact ⟨(World.interrupted_bind ..).trans still, by simpa [World.entry] using silent⟩
  case left => exact ⟨still, by simpa [World.leaving] using silent⟩
  case defined | extended => exact ⟨still, silent⟩

/-- A run that is to stop from its start asks exactly if it stops for that. -/
theorem Ended.polled_iff {stop : Stop} (ended : Ended context start level since stop world) :
    (∃ entry ∈ since, entry.happening = .polled) ↔ stop = .failed .interrupted := by
  -- What has been asked, and why the run stops, does not change as calls are left.
  induction ended with
  | exhausted course =>
    refine ⟨?_, nofun⟩
    rintro ⟨entry, member, polled⟩
    exact absurd polled ((course.ne_polled asked).2 entry member)
  | failed course fault =>
    obtain ⟨still, silent⟩ := course.ne_polled asked
    cases fault
    case raised error calm roomy =>
      constructor
      · rintro ⟨entry, member, polled⟩
        rcases List.mem_cons.mp member with rfl | member
        · cases polled
        · exact absurd polled (silent entry member)
      · intro stopped
        exact absurd (Stop.failed.inj stopped) calm
    case interrupted world _ =>
      -- Here it asks, and stops.
      exact ⟨fun _ => rfl, fun _ => ⟨world.entry .polled, by simp, rfl⟩⟩
    -- The run is to stop, so that it comes to no call that is not.
    case tooDeep clear _ | refused clear _ _ => cases clear.symm.trans still
  | left ended ih => simpa [World.leaving] using ih

/-- A run that is to stop from its start asks exactly if it stops for that, whatever it yields. -/
theorem Ran.polled_iff {α : Type} {outcome : Except Stop α}
    (ran : Ran context start outcome since world) :
    (∃ entry ∈ since, entry.happening = .polled) ↔ outcome = .error (.failed .interrupted) := by
  -- A run that yields something has never asked.
  cases outcome with
  | ok found =>
    refine ⟨?_, nofun⟩
    rintro ⟨entry, member, polled⟩
    exact absurd polled ((Course.ne_polled asked ran).2 entry member)
  | error stop => exact (Ended.polled_iff asked ran).trans (by rw [Except.error.injEq])

end Interrupted

end Scriptlet

import Scriptlet.Proofs.Machine.Course

/-!
How a run fails: once, and for good.

Main statement: a failure that a run writes down is what it comes to, whoever raised it, and after
it no function is entered and no name is bound. A run that writes none down does not fail.
-/

namespace Scriptlet

/-- The failure that an entry of the journal tells of. -/
def Entry.failure? (entry : Entry) : Option EvalError :=
  match entry.happening with
  | .raised error | .hostRaised error => some error
  | _ => none

/-- Whether the host's answer to the call that an entry tells of, if it tells of one, is such. -/
def Heard (host : Host) (before : List Entry) (such : HostReply → Prop) (entry : Entry)
    (older : List Entry) : Prop :=
  ∀ call, World.hostCall? entry = some call → such (host.reply (older ++ before) call)

/-- What the entries that a run has written since its start have to do with what it comes to. -/
structure Account {α : Type} (host : Host) (start : World) (outcome : Except Stop α)
    (since : List Entry) (final : World) : Prop where
  /-- They come on top of those written before. -/
  journal_eq : final.journal = since ++ start.journal
  /-- Whatever failure they tell of, the run comes to it. -/
  fails : ∀ entry ∈ since, ∀ error, entry.failure? = some error → outcome = .error (.failed error)
  /-- If the run fails, they tell of it. -/
  failed : ∀ error, outcome = .error (.failed error) → ∃ entry ∈ since, entry.failure? = some error
  /-- After a failure, calls are left, and nothing else happens. -/
  ends : since.Pairwise fun newer older => older.failure? ≠ none → newer.happening = .left
  /-- If the host fails in a call, the run comes to that failure. -/
  refused : Kept (Heard host start.journal fun reply => ∀ error, reply.result = .error error →
    outcome = .error (.failed error)) since
  /-- They tell of each name that a frame has come to bind. -/
  bound : ∀ frame name, start.heap.binds frame name = false → final.heap.binds frame name = true →
    ∃ entry ∈ since, entry.happening = .bound frame name

section Heard

variable {host : Host} {before older : List Entry} {such : HostReply → Prop} {entry : Entry}

/-- Of an entry that tells of no call, anything may be said about the host's answer. -/
theorem Heard.of_eq_none (silent : World.hostCall? entry = none) :
    Heard host before such entry older := by
  intro call told
  -- The entry tells of no call, so that there is no answer to speak of.
  rw [silent] at told
  cases told

/-- Where nothing has failed, there is nothing to be said of what comes after a failure. -/
theorem pairwise_of_calm {since : List Entry} (calm : ∀ entry ∈ since, entry.failure? = none) :
    since.Pairwise fun newer older => older.failure? ≠ none → newer.happening = .left := by
  -- Of an entry that tells of no failure, nothing is asked.
  refine List.pairwise_of_forall_mem_list fun newer _ older member told => ?_
  exact absurd (calm older member) told

end Heard

variable {context : Context} {start : World}

section Course

variable {level : Nat} {since : List Entry} {world : World}

/-- A run that goes on has told of no failure. -/
theorem Course.failure?_eq_none (course : Course context start level since world) :
    ∀ entry ∈ since, entry.failure? = none := by
  -- Going on is a matter of single steps, none of which writes a failure down.
  refine course.keeps (fun _ since _ => ∀ entry ∈ since, entry.failure? = none) (by simp) ?_
  intro level level' since written world world' calm step entry member
  have new : ∀ entry ∈ written, entry.failure? = none := by
    -- None of the ways to go on is to fail.
    cases step <;> simp [Entry.failure?, World.entry, World.entering, World.leaving]
  rcases List.mem_append.mp member with added | old
  · exact new entry added
  · exact calm entry old

/-- In a run that goes on, the host has not failed, so that anything may be said of its failures. -/
theorem Course.refused (course : Course context start level since world)
    {such : EvalError → Prop} : Kept (Heard context.host start.journal fun reply =>
      ∀ error, reply.result = .error error → such error) since := by
  -- The induction is on the steps; only a step that asks the host tells of a call of it.
  induction course with
  | start => exact kept_nil
  | @step level level' since written world world' course step ih =>
    cases step
    case defined | extended => exact ih
    case answered function arguments value clear room answer =>
      refine kept_cons.mpr ⟨?_, ih⟩
      intro call told error failed
      cases told
      -- The host goes by what is in the journal, and it has answered with a value.
      have heard := congrArg HostReply.result
        (course.reply_eq context.host ⟨function, arguments⟩)
      cases failed.symm.trans (heard.trans answer)
    case entered function arguments own clear room =>
      refine kept_cons.mpr ⟨.of_eq_none ?_, ih⟩
      cases function with
      | host function => exact absurd rfl (own function)
      | closure | builtin => rfl
    all_goals exact kept_cons.mpr ⟨.of_eq_none rfl, ih⟩

end Course

/-- A fault tells last of its failure, and of no other. -/
theorem Fault.failure? {level level' : Nat} {world world' : World} {written : List Entry}
    {error : EvalError} (fault : Fault context level world written level' error world') :
    ∃ last rest, written = last :: rest ∧ last.failure? = some error ∧
      ∀ entry ∈ rest, entry.failure? = none := by
  -- Each of the four ways to fail writes the failure down last.
  cases fault <;>
    exact ⟨_, _, rfl, rfl, by simp [Entry.failure?, World.entry, World.entering]⟩

section Ended

variable {level : Nat} {since : List Entry} {stop : Stop} {world : World}

/-- Whatever failure a run has told of, it stops for that. -/
theorem Ended.stop_eq (ended : Ended context start level since stop world) :
    ∀ entry ∈ since, ∀ error, entry.failure? = some error → stop = .failed error := by
  induction ended with
  | exhausted course =>
    intro entry member error told
    -- Up to here nothing has failed.
    rw [course.failure?_eq_none entry member] at told
    cases told
  | failed course fault =>
    intro entry member error told
    obtain ⟨last, rest, rfl, tells, calm⟩ := fault.failure?
    -- Only the last entry tells of a failure, which is the one that the run fails with.
    rw [List.cons_append, List.mem_cons, List.mem_append] at member
    rcases member with rfl | new | old
    · rw [tells] at told
      cases told
      rfl
    · rw [calm entry new] at told
      cases told
    · rw [course.failure?_eq_none entry old] at told
      cases told
  | left ended ih =>
    intro entry member error told
    -- To leave a call is no failure, and it does not change why the run stops.
    rcases List.mem_cons.mp member with rfl | member
    · cases told
    · exact ih entry member error told

/-- A run that stops for a failure has told of it. -/
theorem Ended.exists_failure (ended : Ended context start level since stop world)
    (error : EvalError) (failed : stop = .failed error) :
    ∃ entry ∈ since, entry.failure? = some error := by
  -- What has been told of is not taken back as calls are left.
  induction ended with
  | exhausted course => cases failed
  | failed course fault =>
    cases failed
    obtain ⟨last, rest, rfl, tells, -⟩ := fault.failure?
    exact ⟨last, by simp, tells⟩
  | left ended ih =>
    obtain ⟨entry, member, tells⟩ := ih failed
    exact ⟨entry, List.mem_cons_of_mem _ member, tells⟩

/-- After a failure, a run leaves its calls. -/
theorem Ended.pairwise (ended : Ended context start level since stop world) :
    since.Pairwise fun newer older => older.failure? ≠ none → newer.happening = .left := by
  induction ended with
  | exhausted course => exact pairwise_of_calm course.failure?_eq_none
  | @failed _ _ since _ _ _ _ course fault =>
    obtain ⟨last, rest, rfl, -, before⟩ := fault.failure?
    -- The failure comes last, and all that it comes after is calm.
    have calm : ∀ entry ∈ rest ++ since, entry.failure? = none := by
      intro entry member
      exact (List.mem_append.mp member).elim (before entry) (course.failure?_eq_none entry)
    refine List.pairwise_cons.mpr ⟨?_, pairwise_of_calm calm⟩
    exact fun older member told => absurd (calm older member) told
  | left ended ih => exact List.pairwise_cons.mpr ⟨fun _ _ _ => rfl, ih⟩

/-- If the host fails in a call, the run stops for that. -/
theorem Ended.refused (ended : Ended context start level since stop world) :
    Kept (Heard context.host start.journal fun reply => ∀ error, reply.result = .error error →
      stop = .failed error) since := by
  induction ended with
  | exhausted course => exact course.refused
  | failed course fault =>
    cases fault
    case raised => exact kept_cons.mpr ⟨.of_eq_none rfl, course.refused⟩
    case interrupted | tooDeep =>
      exact kept_cons.mpr ⟨.of_eq_none rfl, kept_cons.mpr ⟨.of_eq_none rfl, course.refused⟩⟩
    case refused function arguments clear room answer =>
      refine kept_cons.mpr ⟨.of_eq_none rfl, kept_cons.mpr ⟨?_, course.refused⟩⟩
      intro call told error failed
      cases told
      -- It is the failure of this very call that the run stops for.
      have heard := congrArg HostReply.result
        (course.reply_eq context.host ⟨function, arguments⟩)
      cases (heard.trans answer).symm.trans failed
      rfl
  | left ended ih => exact kept_cons.mpr ⟨.of_eq_none rfl, ih⟩

end Ended

/-- A frame comes to bind a name only by a step that tells of it. -/
theorem Step.exists_bound {level level' : Nat} {world world' : World} {written : List Entry}
    (step : Step context level world written level' world') {frame : Nat} {name : Name}
    (free : world.heap.binds frame name = false) (bound : world'.heap.binds frame name = true) :
    ∃ entry ∈ written, entry.happening = .bound frame name := by
  -- Of the ways to go on, one binds a name and one makes a frame.
  cases step
  case bound other name' value unbound =>
    by_cases same : frame = other ∧ name = name'
    · obtain ⟨rfl, rfl⟩ := same
      exact ⟨_, List.mem_singleton_self _, rfl⟩
    · -- Elsewhere nothing is bound by it.
      rw [World.heap_bind, Heap.binds, Heap.find?_bind_of_ne _ same, ← Heap.binds, free] at bound
      cases bound
  case extended parent =>
    -- A new frame has no bindings.
    rw [Heap.binds, Heap.find?_extend, ← Heap.binds, free] at bound
    cases bound
  -- All others leave the bindings as they are.
  all_goals cases free.symm.trans bound

/-- A fault leaves the frames as they are. -/
theorem Fault.heap_eq {level level' : Nat} {world world' : World} {written : List Entry}
    {error : EvalError} (fault : Fault context level world written level' error world') :
    world'.heap = world.heap := by
  -- What a fault writes down, and what the host wishes in it, is not in the frames.
  cases fault <;> rfl

section Ran

variable {α : Type} {outcome : Except Stop α} {since : List Entry} {final : World}

/-- A frame that binds a name after a run but not before has got it by a binding written down. -/
theorem Ran.exists_bound (ran : Ran context start outcome since final) {frame : Nat} {name : Name}
    (free : start.heap.binds frame name = false) (bound : final.heap.binds frame name = true) :
    ∃ entry ∈ since, entry.happening = .bound frame name := by
  -- Held of every state of the run: what is bound there has been told of.
  refine ran.keeps (fun _ since world => world.heap.binds frame name = true →
    ∃ entry ∈ since, entry.happening = .bound frame name) ?_ ?_ ?_ bound
  · intro bound
    cases free.symm.trans bound
  · intro level level' since written world world' held step bound
    -- Either the name was bound before the step, or the step has bound it.
    cases earlier : world.heap.binds frame name with
    | true =>
      obtain ⟨entry, member, tells⟩ := held earlier
      exact ⟨entry, List.mem_append_right _ member, tells⟩
    | false =>
      obtain ⟨entry, member, tells⟩ := step.exists_bound earlier bound
      exact ⟨entry, List.mem_append_left _ member, tells⟩
  · intro level level' since written world world' error held fault bound
    rw [fault.heap_eq] at bound
    obtain ⟨entry, member, tells⟩ := held bound
    exact ⟨entry, List.mem_append_right _ member, tells⟩

/-- What a run has written since its start accounts for what it comes to. -/
theorem Ran.account (ran : Ran context start outcome since final) :
    Account context.host start outcome since final := by
  have bound (frame : Nat) (name : Name) (free : start.heap.binds frame name = false)
      (bound : final.heap.binds frame name = true) := ran.exists_bound free bound
  -- A run that yields something and one that stops are accounted for by different laws.
  cases outcome with
  | ok found =>
    have course : Course context start 0 since final := ran
    have calm := course.failure?_eq_none
    refine ⟨ran.journal_eq, ?_, ?_, pairwise_of_calm calm, course.refused, bound⟩
    · intro entry member error told
      -- A run that yields something has never failed.
      rw [calm entry member] at told
      cases told
    · intro error failed
      cases failed
  | error stop =>
    have ended : Ended context start 0 since stop final := ran
    refine ⟨ran.journal_eq, ?_, ?_, ended.pairwise, ?_, bound⟩
    · intro entry member error told
      rw [ended.stop_eq entry member error told]
    · intro error failed
      exact ended.exists_failure error (Except.error.inj failed)
    · intro entry older inside call told error failed
      rw [ended.refused entry older inside call told error failed]

end Ran

namespace Interpreter

/--
A failure, whoever raises it, is what a run comes to, and nothing is entered or bound after it.

Of every evaluation in any frame, and of every call, what is written down accounts for the outcome:
there is one failure at most, and it is the outcome; only the calls under way are left after it. The
outcome is a failure only if it was written down. If the host fails in a call, that is the outcome,
and a frame binds a name anew only where that has been written down.
-/
theorem accounted_evaluation :
    (∀ (interpreter : Interpreter) (host : Host) (expr : Expr) (frame : Nat), ∃ since,
      Account host interpreter.world (interpreter.evalIn host expr frame).1 since
        (interpreter.evalIn host expr frame).2.world) ∧
    (∀ (interpreter : Interpreter) (host : Host) (expr : Expr), ∃ since,
      Account host interpreter.world (interpreter.evaluate host expr).1 since
        (interpreter.evaluate host expr).2.world) ∧
    (∀ (interpreter : Interpreter) (host : Host) (function : Function) (arguments : List Value),
      ∃ since, Account host interpreter.world (interpreter.call host function arguments).1 since
        (interpreter.call host function arguments).2.world) :=
  -- All three are runs, and a run is accounted for.
  exists_of_ran Account Ran.account

end Interpreter

end Scriptlet

import Scriptlet.Tree.Walk

/-!
What a walk makes heard.

Main statement: to walk through a tree is to hear its events in order, up to the first failure. So
it goes through exactly if the listener takes all of them, and fails as the listener does at one
of them, after all that has been heard in front of it.
-/

namespace Scriptlet

variable {σ ε : Type}

namespace Listener

/-- What a listener does at an event. -/
def hear (listener : Listener σ ε) : Tree.Event → EStateM ε σ Unit
  | .entered rule children => listener.enter rule children
  | .left rule children => listener.leave rule children
  | .token text => listener.token text

/-- What a listener does at events in a row, up to its first failure. -/
def hearAll (listener : Listener σ ε) : List Tree.Event → EStateM ε σ Unit
  | [] => pure ()
  | event :: rest => do
    listener.hear event
    listener.hearAll rest

/-- Events are heard one row after the other. -/
theorem hearAll_append (listener : Listener σ ε) (front back : List Tree.Event) :
    listener.hearAll (front ++ back) = (do
      listener.hearAll front
      listener.hearAll back) := by
  -- By induction on the events of the first row.
  induction front with
  | nil => simp [hearAll]
  | cons event rest ih => simp [hearAll, ih]

variable {listener : Listener σ ε} {event : Tree.Event} {events front : List Tree.Event}
  {state last : σ} {error : ε}

/-- Whether a listener takes events in a row without a failure, each in the state that is left. -/
inductive Takes (listener : Listener σ ε) : List Tree.Event → σ → σ → Prop where
  /-- If there are no events, the state is left as it is. -/
  | nothing {state : σ} : Takes listener [] state state
  /-- An event is taken, and the others after it. -/
  | next {event : Tree.Event} {rest : List Tree.Event} {state between last : σ} :
      (listener.hear event).run state = .ok () between →
      Takes listener rest between last → Takes listener (event :: rest) state last

/-- Whether a listener takes events in a row, and fails at the one that comes next. -/
def FailsAfter (listener : Listener σ ε) (front : List Tree.Event) (event : Tree.Event)
    (state : σ) (error : ε) (last : σ) : Prop :=
  ∃ between, listener.Takes front state between ∧
    (listener.hear event).run between = .error error last

/-- Hearing events goes through exactly if all of them are taken. -/
theorem hearAll_eq_ok_iff :
    (listener.hearAll events).run state = .ok () last ↔ listener.Takes events state last := by
  constructor
  -- By induction on the events, each heard in the state that the one before has left.
  · intro heard
    induction events generalizing state with
    | nil =>
      obtain ⟨-, rfl⟩ := EStateM.Result.ok.inj heard
      exact .nothing
    | cons event rest ih =>
      rw [hearAll, EStateM.run_bind] at heard
      cases first : (listener.hear event).run state with
      | ok result between =>
        rw [first] at heard
        exact .next first (ih heard)
      | error error between => simp [first] at heard
  · intro taken
    -- By induction on the events taken, of which none stops the others.
    induction taken with
    | nothing => rfl
    | next first _ ih =>
      rw [hearAll, EStateM.run_bind, first]
      exact ih

/-- Hearing events fails exactly as the first of them does that is not taken. -/
theorem hearAll_eq_error_iff :
    (listener.hearAll events).run state = .error error last ↔
      ∃ front event back, events = front ++ event :: back ∧
        listener.FailsAfter front event state error last := by
  constructor
  -- By induction on the events: the first one fails, or the failure is behind it.
  · intro failed
    induction events generalizing state with
    | nil => cases failed
    | cons event rest ih =>
      rw [hearAll, EStateM.run_bind] at failed
      cases first : (listener.hear event).run state with
      | ok result between =>
        -- The failure comes later, and this event is one of those in front of it.
        rw [first] at failed
        obtain ⟨front, event', back, rfl, later, taken, fails⟩ := ih failed
        exact ⟨event :: front, event', back, rfl, later, .next first taken, fails⟩
      | error error' last' =>
        rw [first] at failed
        exact ⟨[], event, rest, rfl, state, .nothing, first.trans failed⟩
  · rintro ⟨front, event, back, rfl, between, taken, fails⟩
    -- What stands behind the failure is not reached.
    rw [hearAll_append, EStateM.run_bind, hearAll_eq_ok_iff.mpr taken]
    simp only [hearAll, EStateM.run_bind, fails]

section Recorded

/-- Do something about an event, and put the event on record whether this fails or not. -/
def onRecord (event : Tree.Event) (heed : EStateM ε σ Unit) :
    EStateM ε (List Tree.Event × σ) Unit :=
  fun (heard, state) =>
    match heed state with
    | .ok _ next => .ok () (heard ++ [event], next)
    | .error error next => .error error (heard ++ [event], next)

/-- A listener that does what another one does, and has on record what it has been called for. -/
def recorded (listener : Listener σ ε) : Listener (List Tree.Event × σ) ε where
  enter rule children := onRecord (.entered rule children) (listener.enter rule children)
  leave rule children := onRecord (.left rule children) (listener.leave rule children)
  token text := onRecord (.token text) (listener.token text)

/-- The recording listener hears an event as the other one does, and puts it on record. -/
theorem hear_recorded (listener : Listener σ ε) (event : Tree.Event) :
    -- There is one reaction for each kind of event, and it is put on record.
    listener.recorded.hear event = onRecord event (listener.hear event) := by
  cases event <;> rfl

/-- Events that are taken come to be on record, and the record makes no other difference. -/
theorem Takes.recorded (taken : listener.Takes events state last) (heard : List Tree.Event) :
    listener.recorded.Takes events (heard, state) (heard ++ events, last) := by
  -- By induction on the events taken, each of which is on record when the next one comes.
  induction taken generalizing heard with
  | nothing => simpa using .nothing
  | @next event rest state between _ first _ ih =>
    rw [EStateM.run] at first
    have noted : (listener.recorded.hear event).run (heard, state) =
        .ok () (heard ++ [event], between) := by
      rw [hear_recorded, EStateM.run, onRecord, first]
    simpa using Takes.next noted (ih (heard ++ [event]))

/-- The event at which a listener fails is the last one on record. -/
theorem FailsAfter.recorded (fails : listener.FailsAfter front event state error last)
    (heard : List Tree.Event) :
    listener.recorded.FailsAfter front event (heard, state) error
      (heard ++ (front ++ [event]), last) := by
  -- The events in front have been taken, and put on record.
  obtain ⟨between, taken, failed⟩ := fails
  refine ⟨(heard ++ front, between), taken.recorded heard, ?_⟩
  rw [EStateM.run] at failed
  rw [hear_recorded, EStateM.run, onRecord, failed, List.append_assoc]

end Recorded

end Listener

namespace Tree

/-- What a walk through trees makes heard if nothing stops it. -/
def allEvents (trees : List Tree) : List Event :=
  allEventsBefore trees []

mutual

/-- The events of a tree may be put in front of others. -/
theorem eventsBefore_eq (tail : List Event) : (tree : Tree) →
    tree.eventsBefore tail = tree.events ++ tail
  | terminal text => rfl
  | node rule children => by
    -- The events behind a node are put behind the one at which it is left.
    simp only [events, eventsBefore]
    rw [allEventsBefore_eq (.left rule children :: tail), allEventsBefore_eq [.left rule children]]
    simp

/-- The events of trees may be put in front of others. -/
theorem allEventsBefore_eq (tail : List Event) : (trees : List Tree) →
    allEventsBefore trees tail = allEvents trees ++ tail
  | [] => rfl
  -- The events of the first tree come before those of the rest, and the others behind both.
  | tree :: rest => by
    simp only [allEvents, allEventsBefore]
    rw [eventsBefore_eq, eventsBefore_eq (allEventsBefore rest []) tree, allEventsBefore_eq tail]
    simp [allEvents]

end

/-- A node is entered in front of the events of its children, and left behind them. -/
theorem events_node (rule : Rule) (children : List Tree) :
    (node rule children).events =
      .entered rule children :: (allEvents children ++ [.left rule children]) := by
  -- What comes behind the children is the leaving of the node.
  rw [events, eventsBefore, allEventsBefore_eq]

/-- The events of trees in a row are those of the first, and then those of the rest. -/
theorem allEvents_cons (tree : Tree) (rest : List Tree) :
    allEvents (tree :: rest) = tree.events ++ allEvents rest := by
  -- The first tree is put in front of the events of the rest.
  rw [allEvents, allEventsBefore, eventsBefore_eq, allEvents]

mutual

/-- To walk through a tree is to hear its events. -/
theorem walk_eq_hearAll (listener : Listener σ ε) : (tree : Tree) →
    tree.walk listener = listener.hearAll tree.events
  | terminal text => by simp [walk, events, eventsBefore, Listener.hearAll, Listener.hear]
  | node rule children => by
    -- Entering, the children and leaving are three rows of events.
    rw [events_node, walk, walkAll_eq_hearAll listener children, Listener.hearAll,
      Listener.hearAll_append]
    simp [Listener.hearAll, Listener.hear]

/-- To walk through trees is to hear their events, from the first tree to the last. -/
theorem walkAll_eq_hearAll (listener : Listener σ ε) : (trees : List Tree) →
    walkAll listener trees = listener.hearAll (allEvents trees)
  | [] => rfl
  | tree :: rest => by
    -- The first tree is heard, and then the others.
    rw [allEvents_cons, walkAll, walk_eq_hearAll listener tree, walkAll_eq_hearAll listener rest,
      Listener.hearAll_append]

end

section Recording

variable {heard : Recording} {limit : Nat}

/-- An event is kept on top of those kept before, and ends a recording that is full with it. -/
theorem hear_recorder (last : Option Nat) (event : Event) (heard : Recording) :
    ((recorder last).hear event).run heard =
      if some (heard.count + 1) = last then .error () ⟨heard.count + 1, event :: heard.events⟩
      else .ok () ⟨heard.count + 1, event :: heard.events⟩ := by
  -- All three kinds of events are kept alike.
  have kept : (recorder last).hear event = keep last event := by cases event <;> rfl
  rw [kept]
  -- The event has been kept by the time that the number is compared with the last one.
  change (if (some (heard.count + 1) == last) = true then throw ()
    else pure () : EStateM Unit Recording Unit) ⟨heard.count + 1, event :: heard.events⟩ = _
  simp only [beq_iff_eq]
  split <;> rfl

/-- Without a limit, all events are kept. -/
theorem hearAll_recorder_none (events : List Event) (heard : Recording) :
    ((recorder none).hearAll events).run heard =
      .ok () ⟨heard.count + events.length, events.reverse ++ heard.events⟩ := by
  -- By induction on the events, none of which can be the last one.
  induction events generalizing heard with
  | nil => rfl
  | cons event rest ih =>
    rw [Listener.hearAll, EStateM.run_bind, hear_recorder, if_neg (by simp)]
    simp [ih, Nat.add_assoc, Nat.add_comm 1]

/-- With a limit, events are kept up to the one with which the recording is full. -/
theorem hearAll_recorder_some (events : List Event) (room : heard.count < limit) :
    ((recorder (some limit)).hearAll events).run heard =
      if heard.count + events.length < limit then
        .ok () ⟨heard.count + events.length, events.reverse ++ heard.events⟩
      else
        .error () ⟨limit, (events.take (limit - heard.count)).reverse ++ heard.events⟩ := by
  -- By induction on the events, as long as there is room for another one.
  induction events generalizing heard with
  | nil =>
    rw [List.length_nil, Nat.add_zero, if_pos room]
    rfl
  | cons event rest ih =>
    rw [Listener.hearAll, EStateM.run_bind, hear_recorder, List.length_cons]
    by_cases full : heard.count + 1 = limit
    · -- This event is the last one; those behind it are not heard.
      have one : limit - heard.count = 1 := by omega
      simp only [full, if_true, one]
      rw [if_neg (by omega)]
      simp
    · have more : limit - heard.count = limit - (heard.count + 1) + 1 := by omega
      have later : (⟨heard.count + 1, event :: heard.events⟩ : Recording).count < limit :=
        Nat.lt_of_le_of_ne room full
      rw [if_neg (by simpa using full)]
      simp only [ih later, more, List.take_succ_cons]
      simp [Nat.add_assoc, Nat.add_comm 1]

/-- A recording without a limit holds the events of a tree, and is complete. -/
theorem record_none (tree : Tree) : tree.record none = (tree.events, true) := by
  -- What is kept is the row of events turned round, and it is turned round again at the end.
  rw [record, walk_eq_hearAll, hearAll_recorder_none]
  simp

/-- A recording with a limit holds so many events of a tree, and is complete if it is not full. -/
theorem record_some (positive : 0 < limit) (tree : Tree) :
    tree.record (some limit) =
      (tree.events.take limit, decide (tree.events.length < limit)) := by
  -- The recording starts empty, so that there is room for as many events as the limit says.
  rw [record, walk_eq_hearAll, hearAll_recorder_some _ positive, Nat.zero_add]
  by_cases short : tree.events.length < limit
  · simp [short, List.take_of_length_le (Nat.le_of_lt short)]
  · simp [short]

end Recording

end Tree

end Scriptlet

import Scriptlet.Machine.World
import Scriptlet.Proofs.Value.Match

/-!
What the host is told, and what it makes of that.

Whatever functions of scripts the host comes to know since a start are among the arguments of its
calls, which the journal keeps.
-/

namespace Scriptlet

open Value

/-- Whether all functions that the host was handed since it had been called so often are fit. -/
def World.TellsFit (fit : Closure → Prop) (before : List HostCall) (world : World) : Prop :=
  ∃ since, world.hostCalls = since ++ before ∧ ∀ call ∈ since, AllFit fit call.arguments

/--
Whether a host answers with no functions of scripts of its own in a run that starts after so many
calls.

Those in its answers are known at the start or handed to it since.
-/
def Host.Loyal (host : Host) (known : Closure → Prop) (age : Nat) : Prop :=
  ∀ earlier call value, (host earlier call).result = .ok value →
    ∀ closure ∈ value.closures, known closure ∨
      ∃ told ∈ call :: earlier.take (earlier.length - age), closure ∈ allClosures told.arguments

/--
Whether a host adds nothing of its own to a run that starts after so many calls.

The functions of scripts in its answers are known at the start or handed to it since, and it leaves
the errors of misshapen nodes to the evaluator.
-/
structure Host.Honest (host : Host) (known : Closure → Prop) (age : Nat) : Prop where
  /-- It answers with functions that are known or that it was handed. -/
  functions : ∀ {earlier call value}, (host earlier call).result = .ok value →
    ∀ closure ∈ value.closures, known closure ∨
      ∃ told ∈ call :: earlier.take (earlier.length - age), closure ∈ allClosures told.arguments
  /-- It does not find fault with the shape of a node. -/
  errors : ∀ {earlier call error}, (host earlier call).result ≠ .error (.badShape error)

namespace World

variable {fit : Closure → Prop} {before : List HostCall} {world : World}

/-- What happens adds a call of the host if it is one. -/
theorem hostCalls_note (world : World) (happening : Happening) :
    (world.note happening).hostCalls =
      (hostCall? ⟨happening, world.depth, world.interrupted⟩).toList ++ world.hostCalls := by
  -- What happens is a call of the host or not, and the older calls stay behind it.
  simp only [hostCalls, note, List.filterMap_cons]
  cases hostCall? ⟨happening, world.depth, world.interrupted⟩ <;> rfl

/-- What the host was handed is fit for anything that fit functions are fit for. -/
theorem TellsFit.mono {weaker : Closure → Prop} (tells : world.TellsFit fit before)
    (weaken : ∀ closure, fit closure → weaker closure) : world.TellsFit weaker before := by
  -- The same calls have been made, with the same arguments.
  obtain ⟨since, calls, fits⟩ := tells
  exact ⟨since, calls, fun call member closure held =>
    weaken closure (fits call member closure held)⟩

/-- The host is told nothing by what is no call. -/
theorem TellsFit.note (tells : world.TellsFit fit before) {happening : Happening}
    (quiet : ∀ function arguments, happening ≠ .entered function arguments) :
    (world.note happening).TellsFit fit before := by
  -- None of the entries but that of a function entered tells of a call.
  obtain ⟨since, calls, fits⟩ := tells
  refine ⟨since, ?_, fits⟩
  rw [hostCalls_note, calls]
  cases happening <;> simp_all [hostCall?]

/-- The host is told nothing by a binding. -/
theorem TellsFit.bind (tells : world.TellsFit fit before) (frame : Nat) (name : Name)
    (value : Value) : (world.bind frame name value).TellsFit fit before := by
  -- Nothing is written down, or a binding is.
  unfold World.bind
  split
  · exact tells
  · exact TellsFit.note tells (by simp)

/-- The host is told the arguments of a call. -/
theorem TellsFit.enter (tells : world.TellsFit fit before) (function : Function)
    {arguments : List Value} (fits : AllFit fit arguments) :
    (world.note (.entered function arguments)).TellsFit fit before := by
  obtain ⟨since, calls, kept⟩ := tells
  rw [TellsFit, hostCalls_note, calls]
  -- Only the functions of the host count as calls of it.
  cases function with
  | host called =>
    refine ⟨⟨called, arguments⟩ :: since, rfl, fun call member => ?_⟩
    rcases List.mem_cons.mp member with rfl | member
    · exact fits
    · exact kept call member
  | closure | builtin => exact ⟨since, rfl, kept⟩

/-- A call that the host remembers was told to it since the start. -/
theorem TellsFit.of_mem_take (tells : world.TellsFit fit before) {call : HostCall}
    (member : call ∈ world.hostCalls.tail.take (world.hostCalls.tail.length - before.length)) :
    AllFit fit call.arguments := by
  -- The calls since the start stand in front of those before it.
  obtain ⟨since, calls, fits⟩ := tells
  rw [calls] at member
  cases since with
  | nil =>
    -- Of the calls from before the start, none is left to be remembered.
    simp at member
  | cons last since =>
    -- The call that is under way aside, it remembers just those since the start.
    rw [List.cons_append, List.tail_cons, List.length_append, Nat.add_sub_cancel,
      List.take_left] at member
    exact fits call (by simp [member])

end World

/-- What a loyal host answers to a call with fit arguments is fit, if what it knows is. -/
theorem Host.Loyal.fits {host : Host} {known fit : Closure → Prop} {before : List HostCall}
    {world : World} (loyal : host.Loyal known before.length) (trusted : ∀ closure,
      known closure → fit closure) (tells : world.TellsFit fit before) {function : HostFunction}
    {arguments : List Value} {value : Value} (fits : AllFit fit arguments)
    (answered : (host world.hostCalls.tail ⟨function, arguments⟩).result = .ok value) :
    Fits fit value := by
  -- What the host answers with it knows from one place or another.
  intro closure member
  rcases loyal _ _ _ answered closure member with old | ⟨told, handed, among⟩
  · exact trusted closure old
  · -- It was handed the function in this call, or in one that it remembers.
    rcases List.mem_cons.mp handed with rfl | handed
    · exact fits closure among
    · exact tells.of_mem_take handed closure among

/-- An honest host is loyal. -/
theorem Host.Honest.loyal {host : Host} {known : Closure → Prop} {age : Nat}
    (honest : host.Honest known age) : host.Loyal known age :=
  fun _ _ _ => honest.functions

end Scriptlet

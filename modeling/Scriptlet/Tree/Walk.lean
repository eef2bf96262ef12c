import Scriptlet.Tree.Basic

/-! Walks through syntax trees in the order of the script, heard by who may stop them. -/

namespace Scriptlet

/-- What a listener does as a walk goes on, over a state of its own that outlives a failure. -/
structure Listener (σ ε : Type) where
  /-- What is done in front of the children of a node. -/
  enter : Rule → List Tree → EStateM ε σ Unit
  /-- What is done behind the children of a node. -/
  leave : Rule → List Tree → EStateM ε σ Unit
  /-- What is done at a token. -/
  token : String → EStateM ε σ Unit

namespace Tree

mutual

/-- Walk through a tree up to the first failure of the listener. -/
def walk {σ ε : Type} (listener : Listener σ ε) : Tree → EStateM ε σ Unit
  | terminal text => listener.token text
  | node rule children => do
    listener.enter rule children
    walkAll listener children
    listener.leave rule children

/-- Walk through trees from left to right, up to the first failure of the listener. -/
def walkAll {σ ε : Type} (listener : Listener σ ε) : List Tree → EStateM ε σ Unit
  | [] => pure ()
  | tree :: rest => do
    walk listener tree
    walkAll listener rest

end

/-- What a listener hears. -/
inductive Event where
  /-- The walk comes to a node. -/
  | entered (rule : Rule) (children : List Tree)
  /-- The walk has been through the children of a node. -/
  | left (rule : Rule) (children : List Tree)
  /-- The walk comes to a token. -/
  | token (text : String)
  deriving Repr, Inhabited

mutual

/-- What a walk through a tree makes heard if nothing stops it, in front of other events. -/
def eventsBefore : Tree → List Event → List Event
  | terminal text, tail => .token text :: tail
  | node rule children, tail =>
    .entered rule children :: allEventsBefore children (.left rule children :: tail)

/-- What a walk through trees makes heard if nothing stops it, in front of other events. -/
def allEventsBefore : List Tree → List Event → List Event
  | [], tail => tail
  | tree :: rest, tail => tree.eventsBefore (allEventsBefore rest tail)

end

/-- What a walk through a tree makes heard if nothing stops it. -/
def events (tree : Tree) : List Event :=
  tree.eventsBefore []

/-!
Recordings of walks: what a listener hears, for those who want to look at it afterwards. A test can
tell by them in which order a walk makes things heard, and what it leaves out after a failure.
-/

/-- What has been heard so far. -/
structure Recording where
  /-- The number of events. -/
  count : Nat
  /-- The events, the newest first. -/
  events : List Event

/-- Keep an event, and fail if it is the last one to be kept. -/
def keep (last : Option Nat) (event : Event) : EStateM Unit Recording Unit := do
  modify fun heard => ⟨heard.count + 1, event :: heard.events⟩
  if some (← get).count == last then throw ()

/-- A listener that keeps what it hears, up to a number of events at which it fails. -/
def recorder (last : Option Nat) : Listener Recording Unit where
  enter rule children := keep last (.entered rule children)
  leave rule children := keep last (.left rule children)
  token text := keep last (.token text)

/-- What a walk makes heard within a limit on the events, and whether it came to its end. -/
def record (last : Option Nat) (tree : Tree) : List Event × Bool :=
  match (tree.walk (recorder last)).run ⟨0, []⟩ with
  | .ok _ heard => (heard.events.reverse, true)
  | .error _ heard => (heard.events.reverse, false)

end Tree

end Scriptlet

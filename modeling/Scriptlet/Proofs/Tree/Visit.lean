import Scriptlet.Proofs.Tree.Walk

/-!
The places in a tree, and the order in which a walk comes to them.

Main statement: a walk makes heard what there is to hear at the places in the tree, once each and in
the order of the script, up to the first failure of the listener, and nothing behind it. It ends
without an error exactly if the listener does not fail at any of it.
-/

namespace Scriptlet

variable {σ ε : Type}

namespace Tree

/-- The tree at a place in a tree, given by the indices of the children on the way down to it. -/
def subtree? : Tree → List Nat → Option Tree
  | tree, [] => some tree
  | tree, index :: place => tree.children[index]?.bind (·.subtree? place)

/-- What there is to hear of a tree apart from its children. -/
def own : Tree → List Event
  | terminal text => [.token text]
  | node rule children => [.entered rule children, .left rule children]

/-- Something that is heard at a place in a tree. -/
structure Visit where
  /-- The indices of the children on the way down to the place. -/
  place : List Nat
  /-- What is heard there. -/
  event : Event

namespace Visit

/-- A visit to a child of a node, as a visit to the node. -/
def under (index : Nat) (visit : Visit) : Visit :=
  ⟨index :: visit.place, visit.event⟩

/-- Whether what is heard at a place is what there is to hear of the tree there. -/
def Due (tree : Tree) (visit : Visit) : Prop :=
  ∃ found, tree.subtree? visit.place = some found ∧ visit.event ∈ found.own

/-- Whether a visit comes in front of another one in the order of the script. -/
inductive Before : Visit → Visit → Prop where
  /-- A node is entered in front of all that lies in it. -/
  | opens {rule : Rule} {children : List Tree} {index : Nat} {place : List Nat} {event : Event} :
      Before ⟨[], .entered rule children⟩ ⟨index :: place, event⟩
  /-- A node is left behind all that lies in it. -/
  | closes {rule : Rule} {children : List Tree} {index : Nat} {place : List Nat} {event : Event} :
      Before ⟨index :: place, event⟩ ⟨[], .left rule children⟩
  /-- A node is entered before it is left. -/
  | spans {rule : Rule} {children : List Tree} :
      Before ⟨[], .entered rule children⟩ ⟨[], .left rule children⟩
  /-- What lies in one child comes in front of what lies in a later one. -/
  | apart {index index' : Nat} {place place' : List Nat} {event event' : Event} :
      index < index' → Before ⟨index :: place, event⟩ ⟨index' :: place', event'⟩
  /-- What lies in the same child comes in the order that it has there. -/
  | within {index : Nat} {place place' : List Nat} {event event' : Event} :
      Before ⟨place, event⟩ ⟨place', event'⟩ →
        Before ⟨index :: place, event⟩ ⟨index :: place', event'⟩

variable {visit visit' : Visit}

/-- Of two visits, at most one comes in front of the other. -/
theorem Before.asymm (before : Before visit visit') : ¬Before visit' visit := by
  -- By induction on the first order; the second one would have to be of the same kind.
  induction before with
  | opens => nofun
  | closes => nofun
  | spans => nofun
  | apart later =>
    intro back
    cases back with
    | apart earlier => omega
    | within => omega
  | within _ ih =>
    intro back
    cases back with
    | apart earlier => omega
    | within back => exact ih back

/-- A visit to a child is a visit to the node at a place that goes through the child. -/
theorem under_eq_iff {index offset : Nat} {place : List Nat} {event : Event} :
    visit.under offset = ⟨index :: place, event⟩ ↔ offset = index ∧ visit = ⟨place, event⟩ := by
  -- Places are compared index by index.
  obtain ⟨place', event'⟩ := visit
  simp [under, and_assoc]

/-- What there is to hear further down is what there is to hear in a child. -/
theorem due_cons_iff {tree : Tree} {index : Nat} {place : List Nat} {event : Event} :
    Due tree ⟨index :: place, event⟩ ↔
      ∃ child, tree.children[index]? = some child ∧ Due child ⟨place, event⟩ := by
  -- On the way down, the first step leads to the child.
  simp only [Due, subtree?, Option.bind_eq_some_iff]
  constructor
  · rintro ⟨found, ⟨child, there, further⟩, own⟩
    exact ⟨child, there, found, further, own⟩
  · rintro ⟨child, there, found, further, own⟩
    exact ⟨found, ⟨child, there, further⟩, own⟩

end Visit

open Visit

/-- Whether visits are all that are due in a tree, in the order of the script. -/
structure InOrder (tree : Tree) (visits : List Visit) : Prop where
  /-- There is a visit for all that there is to hear, and no other. -/
  mem_iff : ∀ visit, visit ∈ visits ↔ Due tree visit
  /-- Every visit comes in front of all that are made after it. -/
  pairwise : visits.Pairwise Before

namespace InOrder

variable {tree : Tree} {visits others : List Visit}

/-- No visit is made twice. -/
theorem nodup (inOrder : tree.InOrder visits) : visits.Nodup :=
  inOrder.pairwise.imp fun before same => (same ▸ before).asymm (same ▸ before)

/-- The visits in order are the only ones. -/
theorem unique (inOrder : tree.InOrder visits) (inOrder' : tree.InOrder others) :
    visits = others := by
  -- None is made twice, so that both are rows of the same visits.
  have perm : visits.Perm others := (List.perm_ext_iff_of_nodup inOrder.nodup inOrder'.nodup).mpr
    fun visit => (inOrder.mem_iff visit).trans (inOrder'.mem_iff visit).symm
  exact perm.eq_of_pairwise (fun _ _ _ _ before back => absurd back before.asymm)
    inOrder.pairwise inOrder'.pairwise

end InOrder

mutual

/-- The visits of a walk through a tree, with the places in it. -/
def visits : Tree → List Visit
  | terminal text => [⟨[], .token text⟩]
  | node rule children =>
    ⟨[], .entered rule children⟩ :: (visitsFrom 0 children ++ [⟨[], .left rule children⟩])

/-- The visits of a walk through the children of a node, from the one with an index on. -/
def visitsFrom (index : Nat) : List Tree → List Visit
  | [] => []
  | tree :: rest => tree.visits.map (under index) ++ visitsFrom (index + 1) rest

end

mutual

/-- What is heard at the visits are the events of the tree. -/
theorem map_event_visits : (tree : Tree) → tree.visits.map Visit.event = tree.events
  | terminal text => rfl
  | node rule children => by
    -- The events of a node are those of its visits, its own at either end.
    rw [visits, events_node, List.map_cons, List.map_append, map_event_visitsFrom 0 children]
    rfl

/-- What is heard at the visits to trees in a row are the events of these trees. -/
theorem map_event_visitsFrom (index : Nat) :
    (trees : List Tree) → (visitsFrom index trees).map Visit.event = allEvents trees
  | [] => rfl
  -- The index of a child is part of the place, and makes no difference to what is heard.
  | tree :: rest => by
    rw [visitsFrom, allEvents_cons, List.map_append, map_event_visitsFrom (index + 1) rest,
      List.map_map, ← map_event_visits tree]
    rfl

end

mutual

/-- The visits of a walk are those that are due. -/
theorem mem_visits_iff : (tree : Tree) → (visit : Visit) → (visit ∈ tree.visits ↔ Due tree visit)
  | terminal text, visit => by
    -- At a token there is one thing to hear, and no place further down.
    obtain ⟨_ | ⟨index, place⟩, event⟩ := visit
    · simp [visits, Due, subtree?, own]
    · simp [visits, Due, subtree?, children]
  | node rule trees, visit => by
    -- The visits of a node are its own two and those to its children.
    rw [visits, List.mem_cons, List.mem_append, List.mem_singleton, mem_visitsFrom_iff 0 trees]
    obtain ⟨_ | ⟨index, place⟩, event⟩ := visit
    · -- At the node itself, it is entered and left.
      simp [under, Due, subtree?, own]
    · -- Further down, what is due is due in a child.
      rw [due_cons_iff]
      constructor
      · rintro (entered | ⟨offset, tree, there, inner, due, same⟩ | left)
        · cases entered
        · obtain ⟨rfl, rfl⟩ := under_eq_iff.mp same
          exact ⟨tree, by simpa [children] using there, due⟩
        · cases left
      · rintro ⟨child, there, due⟩
        exact .inr (.inl ⟨index, child, there, _, due, under_eq_iff.mpr ⟨Nat.zero_add index, rfl⟩⟩)

/-- The visits of a walk to trees in a row are those that are due in one of them. -/
theorem mem_visitsFrom_iff (index : Nat) : (trees : List Tree) → (visit : Visit) →
    (visit ∈ visitsFrom index trees ↔ ∃ offset tree, trees[offset]? = some tree ∧
      ∃ inner, Due tree inner ∧ inner.under (index + offset) = visit)
  | [], visit => by simp [visitsFrom]
  | tree :: rest, visit => by
    -- A visit is one to the first tree, or to one behind it, whose index is one more.
    rw [visitsFrom, List.mem_append, mem_visitsFrom_iff (index + 1) rest, List.mem_map]
    simp only [mem_visits_iff tree]
    constructor
    · rintro (first | ⟨offset, tree', there, later⟩)
      · exact ⟨0, tree, rfl, first⟩
      · exact ⟨offset + 1, tree', there, by rwa [Nat.add_assoc, Nat.add_comm 1] at later⟩
    · rintro ⟨_ | offset, tree', there, found⟩
      · cases there
        exact .inl found
      · exact .inr ⟨offset, tree', there, by rwa [Nat.add_assoc, Nat.add_comm 1]⟩

end

/-- A visit to the children of a node is one to a child that is not in front of the first. -/
theorem exists_under_of_mem {visit : Visit} {index : Nat} {trees : List Tree}
    (member : visit ∈ visitsFrom index trees) :
    ∃ offset inner, visit = under (index + offset) inner := by
  -- The visits to the children are known, and the place of each goes through one of them.
  obtain ⟨offset, _, _, inner, _, same⟩ := (mem_visitsFrom_iff index trees visit).mp member
  exact ⟨offset, inner, same.symm⟩

mutual

/-- The visits of a walk are in the order of the script. -/
theorem pairwise_visits : (tree : Tree) → tree.visits.Pairwise Before
  | terminal text => List.pairwise_singleton ..
  | node rule trees => by
    -- The node is entered first and left last, and its children come in between.
    rw [visits, List.pairwise_cons, List.pairwise_append]
    refine ⟨fun visit behind => ?_, pairwise_visitsFrom 0 trees, List.pairwise_singleton .., ?_⟩
    · -- Everything else comes behind entering it.
      rcases List.mem_append.mp behind with inside | last
      · obtain ⟨_, _, rfl⟩ := exists_under_of_mem inside
        exact .opens
      · rw [List.mem_singleton.mp last]
        exact .spans
    · -- And leaving it comes behind everything inside.
      intro visit inside last closing
      obtain ⟨_, _, rfl⟩ := exists_under_of_mem inside
      rw [List.mem_singleton.mp closing]
      exact .closes

/-- The visits to trees in a row are in the order of the script. -/
theorem pairwise_visitsFrom (index : Nat) :
    (trees : List Tree) → (visitsFrom index trees).Pairwise Before
  | [] => .nil
  | tree :: rest => by
    -- Each tree has its own order, and what lies in a later one has a larger index.
    rw [visitsFrom, List.pairwise_append, List.pairwise_map]
    refine ⟨(pairwise_visits tree).imp .within, pairwise_visitsFrom (index + 1) rest, ?_⟩
    intro first here second later
    obtain ⟨inner, -, rfl⟩ := List.mem_map.mp here
    obtain ⟨offset, _, rfl⟩ := exists_under_of_mem later
    exact .apart (by omega)

end

/-- The visits of a walk are all that are due, in the order of the script. -/
theorem inOrder_visits (tree : Tree) : tree.InOrder tree.visits where
  mem_iff := mem_visits_iff tree
  pairwise := pairwise_visits tree

section Walk

variable {listener : Listener σ ε} {tree : Tree} {state last : σ} {error : ε}

/-- A walk goes through exactly if what is heard at all visits is taken. -/
theorem walk_eq_ok_iff :
    (tree.walk listener).run state = .ok () last ↔
      listener.Takes (tree.visits.map Visit.event) state last := by
  -- The visits make the same events heard as the walk.
  rw [walk_eq_hearAll, Listener.hearAll_eq_ok_iff, map_event_visits]

/-- A walk fails exactly as its listener does at the first visit that is not taken. -/
theorem walk_eq_error_iff :
    (tree.walk listener).run state = .error error last ↔
      ∃ front visit back, tree.visits = front ++ visit :: back ∧
        listener.FailsAfter (front.map Visit.event) visit.event state error last := by
  rw [walk_eq_hearAll, Listener.hearAll_eq_error_iff, ← map_event_visits]
  constructor
  · rintro ⟨heard, event, unheard, parted, fails⟩
    -- Where the events are parted, so are the visits.
    obtain ⟨front, rest, whole, rfl, behind⟩ := List.map_eq_append_iff.mp parted
    obtain ⟨visit, back, rfl, rfl, rfl⟩ := List.map_eq_cons_iff.mp behind
    exact ⟨front, visit, back, whole, fails⟩
  · rintro ⟨front, visit, back, whole, fails⟩
    exact ⟨_, _, back.map Visit.event, by rw [whole, List.map_append, List.map_cons], fails⟩

end Walk

/-- How a walk through a tree goes, from a state of its listener, if these are its visits. -/
structure Delivers (listener : Listener σ ε) (tree : Tree) (state : σ) (visits : List Visit) :
    Prop where
  /-- Each node is entered in front of its children and left behind them, and each token is heard,
  once each and with what belongs to it. -/
  inOrder : tree.InOrder visits
  /-- There is no other order. -/
  unique : ∀ others, tree.InOrder others → others = visits
  /-- The walk goes through exactly if the listener takes all that is heard at the visits. -/
  ok_iff : ∀ last, (tree.walk listener).run state = .ok () last ↔
    listener.Takes (visits.map Visit.event) state last
  /-- It fails exactly as the listener does at one visit, after those in front have been taken. -/
  error_iff : ∀ error last, (tree.walk listener).run state = .error error last ↔
    ∃ front visit back, visits = front ++ visit :: back ∧
      listener.FailsAfter (front.map Visit.event) visit.event state error last
  /-- If all is taken, all of it has been heard, in this order. -/
  heard_of_takes : ∀ heard last, listener.Takes (visits.map Visit.event) state last →
    (tree.walk listener.recorded).run (heard, state) =
      .ok () (heard ++ visits.map Visit.event, last)
  /-- If not, all has been heard up to the failure, in this order, and nothing behind it. -/
  heard_of_fails : ∀ heard front visit back error last, visits = front ++ visit :: back →
    listener.FailsAfter (front.map Visit.event) visit.event state error last →
      (tree.walk listener.recorded).run (heard, state) =
        .error error (heard ++ (front ++ [visit]).map Visit.event, last)

/--
A walk makes its listener hear all of a tree in the order of the script, up to the first failure.

This holds for every listener, whatever it keeps in its state and wherever it fails: the walk hands
on the error at which it stops, and calls for nothing more, nor does it leave the nodes in which it
has stopped.
-/
theorem walk_delivers (listener : Listener σ ε) (tree : Tree) (state : σ) :
    Delivers listener tree state tree.visits where
  inOrder := inOrder_visits tree
  unique _ inOrder := inOrder.unique (inOrder_visits tree)
  ok_iff _ := walk_eq_ok_iff
  error_iff _ _ := walk_eq_error_iff
  heard_of_takes heard _ taken := walk_eq_ok_iff.mpr (taken.recorded heard)
  heard_of_fails heard front visit back _ _ whole fails :=
    walk_eq_error_iff.mpr ⟨front, visit, back, whole, by simpa using fails.recorded heard⟩

end Tree

end Scriptlet

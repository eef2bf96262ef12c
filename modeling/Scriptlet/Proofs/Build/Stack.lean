import Mathlib.Data.List.Infix
import Scriptlet.Build.Builder
import Scriptlet.Proofs.Build.Blame
import Scriptlet.Proofs.Tree.Walk

/-!
What building on a stack leaves alone.

Main statement: a walk through a node puts one expression on top of any stack, or it fails, and at
no moment does it look at what lay there before or take it away. So the builder is never at fault
itself: it does not miss a part or a mark, nor find one too many.
-/

namespace Scriptlet

namespace Build

/-! What lies below. -/

/-- What comes of stacking on nothing, as it is on top of other entries. -/
def onTop {α : Type} (below : List Entry) :
    EStateM.Result BuildError (List Entry) α → EStateM.Result BuildError (List Entry) α
  | .ok result stack => .ok result (stack ++ below)
  | .error error stack => .error error (stack ++ below)

/-- Whether something done to a stack makes no difference to entries below, nor they to it. -/
def Spares {α : Type} (stacking : Stacking α) (own : List Entry) : Prop :=
  ∀ below, stacking.run (own ++ below) = onTop below (stacking.run own)

namespace Spares

variable {α β : Type} {own : List Entry}

/-- To yield something at once does not touch the stack. -/
theorem pure (result : α) : Spares (Pure.pure result) own := fun _ => rfl

/-- To yield an outcome, or to fail with it, does not touch the stack. -/
theorem ofExcept (outcome : Except BuildError α) : Spares (Stacking.ofExcept outcome) own := by
  -- Both ways leave the stack as it is.
  intro below
  cases outcome <;> rfl

/-- What spares the entries below step by step does so in a row. -/
theorem bind {first : Stacking α} {next : α → Stacking β} (here : Spares first own)
    (there : ∀ result stack, first.run own = .ok result stack → Spares (next result) stack) :
    Spares (first >>= next) own := by
  -- The second step starts from what the first has left on top of the entries below.
  intro below
  rw [EStateM.run_bind, EStateM.run_bind, here below]
  cases found : first.run own with
  | ok result stack => exact there result stack found below
  | error error stack => rfl

end Spares

/-- If there are enough entries on top, those below are not taken. -/
theorem spares_take (rule : Rule) {count : Nat} {own : List Entry} (enough : count ≤ own.length) :
    Spares (take rule count) own := by
  -- What is taken from the top, and what stays, is cut within the own entries.
  intro below
  have top : (own ++ below).take count = own.take count := List.take_append_of_le_length enough
  have rest : (own ++ below).drop count = own.drop count ++ below :=
    List.drop_append_of_le_length enough
  have whole : ¬(own.take count).length < count := by simp [enough]
  simp only [take, EStateM.run_bind, EStateM.run_get, top, rest, if_neg whole]
  cases allBuilt? (own.take count).reverse <;> rfl

/-- The search for the nearest mark ends at the first one. -/
theorem aboveMark?_append (above : List Expr) {own : List Entry} (marked : .mark ∈ own) :
    ∃ exprs rest, aboveMark? above own = some (exprs, rest) ∧
      ∀ below, aboveMark? above (own ++ below) = some (exprs, rest ++ below) := by
  induction own generalizing above with
  | nil => cases marked
  | cons entry own ih =>
    -- What lies above the first mark is all that is looked at.
    cases entry with
    | mark => exact ⟨above, own, rfl, fun below => rfl⟩
    | built expr => exact ih (expr :: above) (by simpa using marked)

/-- If there is a mark on top, no entry below is taken. -/
theorem spares_takeToMark (rule : Rule) {own : List Entry} (marked : .mark ∈ own) :
    Spares (takeToMark rule) own := by
  -- Both searches stop at the same mark.
  intro below
  obtain ⟨exprs, rest, found, found'⟩ := aboveMark?_append [] marked
  simp only [takeToMark, EStateM.run_bind, EStateM.run_get, found, found' below]
  rfl

/-- A node whose parts lie on top is put together without those below. -/
theorem spares_reduce (separator : Char) (rule : Rule) (children : List Tree) (parts : List Expr)
    (count : parts.length = (Tree.nodes children).length) (own : List Entry) :
    Spares (reduce separator rule children) ((parts.map .built).reverse ++ openedBy rule own) := by
  have enough : (Tree.nodes children).length ≤
      ((parts.map Entry.built).reverse ++ openedBy rule own).length := by
    -- Each part is an entry of its own.
    simp [count]
  unfold reduce
  by_cases collects : rule.collects = true
  · -- The node's own mark lies below its parts.
    simp only [if_pos collects]
    refine (spares_takeToMark rule ?_).bind fun _ _ _ => .ofExcept _
    simp [openedBy, collects]
  simp only [if_neg collects]
  -- A leaf takes nothing from the stack.
  by_cases lexical : rule.isLexical = true
  · simp only [if_pos lexical]
    exact .ofExcept _
  simp only [if_neg lexical]
  -- A chain takes as many entries as it has operands.
  by_cases joined : rule.isChain = true
  · simp only [if_pos joined]
    cases accepted : chain rule children with
    | error error => exact (Spares.ofExcept (.error error)).bind nofun
    | ok result =>
      have operands : result.1 = Tree.nodes children := chain_operands accepted
      refine (Spares.ofExcept (.ok result)).bind fun found stack taken => ?_
      cases taken
      exact (spares_take rule (operands ▸ enough)).bind fun _ _ _ => .ofExcept _
  · -- Any other node takes one entry for each of its nodes.
    simp only [if_neg joined]
    exact (spares_take rule enough).bind fun _ _ _ => .ofExcept _

variable (separator : Char)

/-- To enter a node puts its mark on top, if it has one, and looks at nothing. -/
theorem spares_enter (rule : Rule) (children : List Tree) (own : List Entry) :
    Spares ((stacker separator).enter rule children) own := by
  intro below
  -- The mark is put on top of either stack.
  rw [run_enter, run_enter, onTop]
  by_cases collects : rule.collects = true <;> simp [openedBy, collects]

/-- To leave a node takes its parts and its mark, which lie on top. -/
theorem spares_leave (rule : Rule) (children : List Tree) (parts : List Expr)
    (count : parts.length = (Tree.nodes children).length) (own : List Entry) :
    Spares ((stacker separator).leave rule children)
      ((parts.map .built).reverse ++ openedBy rule own) :=
  (spares_reduce separator rule children parts count own).bind fun _ _ _ _ => rfl

/-- Where a walk through a node's children has come to its end, their expressions lie on top. -/
theorem exists_parts {children : List Tree} {own stack : List Entry}
    (walked : (Tree.walkAll (stacker separator) children).run own = .ok () stack) :
    ∃ parts : List Expr, parts.length = (Tree.nodes children).length ∧
      stack = (parts.map .built).reverse ++ own := by
  -- The walk puts on the stack what an ascent through the children gives.
  have puts := walkAll_puts separator own children
  rw [walked] at puts
  cases read : ascendAll separator children with
  | error error =>
    obtain ⟨left, failed⟩ : ∃ left, _ = EStateM.Result.error error left := by
      simpa only [Puts, read] using puts
    cases failed
  | ok parts =>
    simp only [Puts, read, EStateM.Result.ok.injEq, true_and] at puts
    exact ⟨parts, ascendAll_length read, puts⟩

mutual

/-- At every moment of a walk through a tree, what lay on the stack before is left alone. -/
theorem spares_hearAll (own : List Entry) : (tree : Tree) → (front : List Tree.Event) →
    front <+: tree.events → Spares ((stacker separator).hearAll front) own
  | .terminal text, front, early => by
    -- Tokens do nothing to the stack.
    rcases List.prefix_cons_iff.mp early with rfl | ⟨rest, rfl, last⟩
    · exact .pure ()
    · rw [List.prefix_nil.mp last]
      exact (Spares.pure ()).bind fun _ _ _ => .pure ()
  | .node rule children, front, early => by
    rw [Tree.events_node, List.prefix_cons_iff] at early
    rcases early with rfl | ⟨rest, rfl, early⟩
    · exact .pure ()
    refine (spares_enter separator rule children own).bind fun _ stack entered => ?_
    obtain rfl : openedBy rule own = stack := by
      simpa [run_enter, Listener.hear] using entered
    have below := sparesAll_hearAll (openedBy rule own) children
    rcases List.prefix_concat_iff.mp early with rfl | early
    · -- The node is left when the expressions of its children lie on top of what it has opened.
      rw [Listener.hearAll_append, ← Tree.walkAll_eq_hearAll]
      refine .bind (Tree.walkAll_eq_hearAll (stacker separator) children ▸
        below _ (List.prefix_refl _)) fun _ stack walked => ?_
      obtain ⟨parts, count, rfl⟩ := exists_parts separator walked
      exact (spares_leave separator rule children parts count own).bind fun _ _ _ => .pure ()
    · exact below rest early

/-- At every moment of a walk through trees, what lay on the stack before is left alone. -/
theorem sparesAll_hearAll (own : List Entry) : (trees : List Tree) →
    (front : List Tree.Event) → front <+: Tree.allEvents trees →
      Spares ((stacker separator).hearAll front) own
  | [], front, early => by
    rw [List.prefix_nil.mp early]
    exact .pure ()
  | tree :: rest, front, early => by
    rw [Tree.allEvents_cons] at early
    -- The moment lies within the first tree, or behind it.
    rcases List.prefix_or_prefix_of_prefix early (List.prefix_append ..) with within | ⟨later, rfl⟩
    · exact spares_hearAll own tree front within
    · rw [Listener.hearAll_append]
      exact (spares_hearAll own tree _ (List.prefix_refl _)).bind fun _ stack _ =>
        sparesAll_hearAll stack rest later ((List.prefix_append_right_inj _).mp early)

end

/-- What a walk of the stacking builder through a tree keeps to, whatever the tree. -/
structure Disciplined (tree : Tree) : Prop where
  /-- The walk goes from one event of the tree to the next. -/
  hears : tree.walk (stacker separator) = (stacker separator).hearAll tree.events
  /-- At every moment, what lies below is as it was, and nothing hangs on what it is. -/
  spares : ∀ below front, front <+: tree.events →
    ((stacker separator).hearAll front).run below =
      onTop below (((stacker separator).hearAll front).run [])
  /-- The walk fails above what lies below, or it puts one expression there and nothing else. -/
  ends : ∀ below,
    (∃ error own, (tree.walk (stacker separator)).run below = .error error (own ++ below)) ∨
      ∃ expr, (tree.walk (stacker separator)).run below = .ok () (.built expr :: below)
  /-- If there is no expression in the end, it is the tree that is to blame. -/
  blames : ∀ error, Builder.listener.build separator tree = .error error → error.isOwn = false

end Build

namespace Builder

open Build

/--
A node is built on top of any stack, and nothing below it is looked at or taken away.

At every moment of the walk, also where it fails, the stack is what it would be without anything
below, with what lay below under it. In the end there is one expression more, unless the walk has
failed. So an expression that cannot be built is never one whose parts or marks have been lost: of
the faults that only the builder itself could make, none is told.
-/
theorem disciplined (separator : Char) (rule : Rule) (children : List Tree) :
    Disciplined separator (.node rule children) where
  hears := Tree.walk_eq_hearAll _ _
  spares below front early := by
    simpa using spares_hearAll separator [] (.node rule children) front early below
  ends below := by
    have spared := spares_hearAll separator [] (.node rule children) _ (List.prefix_refl _) below
    have walked := walk_puts separator below (.node rule children)
    rw [← Tree.walk_eq_hearAll, List.nil_append] at spared
    simp only [ascendAll] at walked
    cases read : ascend separator (.node rule children) with
    | ok expr =>
      simp only [Puts, read, ok_bind, pure_eq_ok] at walked
      exact .inr ⟨expr, by simpa using walked⟩
    | error error =>
      simp only [Puts, read, error_bind] at walked
      obtain ⟨left, failed⟩ := walked
      -- What is left below is what was there before.
      rw [failed] at spared
      cases alone : ((Tree.node rule children).walk (stacker separator)).run [] with
      | ok result stack => simp [alone, onTop] at spared
      | error other own =>
        simp only [alone, onTop, EStateM.Result.error.injEq] at spared
        exact .inl ⟨error, own, by rw [failed, spared.2]⟩
  blames error failed := by
    rw [build, stackUp_eq_ascend] at failed
    exact blames_ascend separator _ error failed

end Builder

end Scriptlet

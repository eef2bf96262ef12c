import Mathlib.Data.List.Basic
import Scriptlet.Build.Assembly
import Scriptlet.Proofs.Machine.Steps

/-!
Chains of truth values and selections are evaluated from left to right, and no further than needed.

Main statements: what such a chain or selection comes to is what its parts come to in turn, up to
the first one that decides; and what stands behind that one may be anything else.
-/

namespace Scriptlet

open Evaluation

/-- The two kinds of chains of truth values. -/
inductive Junction where
  /-- All operands have to hold. -/
  | conjunctive
  /-- One operand has to hold. -/
  | disjunctive
  deriving DecidableEq

namespace Junction

/-- The operation of a chain. -/
def operation : Junction → Operation
  | conjunctive => .both
  | disjunctive => .either

/-- The rule of a chain in the grammar. -/
def rule : Junction → Rule
  | conjunctive => .conjunction
  | disjunctive => .disjunction

/-- The truth of an operand that leaves the result open. -/
def neutral : Junction → Bool
  | conjunctive => true
  | disjunctive => false

/-- A chain of operands, the first ones innermost. -/
def chain (junction : Junction) (first : Expr) (others : List Expr) : Expr :=
  Build.nestLeft first (others.map fun _ => junction.operation) others

/-- What an operand ends with as far as the chain is concerned: only truth values count. -/
def settle (junction : Junction) : Ending Value → Ending Value
  | .ok (.boolean truth) after => .ok (.boolean truth) after
  | .ok value after => raise (.badOperand junction.operation value.type) after
  | .error stop after => .error stop after

end Junction

/-- Whether expressions yield the same truth value one after the other, between two worlds. -/
inductive Passes (context : Context) (frame : Nat) (truth : Bool) :
    List Expr → World → World → Prop
  /-- Where there is no expression, nothing happens. -/
  | done (world : World) : Passes context frame truth [] world world
  /-- The first expression yields the value, and the others do so behind it. -/
  | step {expr : Expr} {rest : List Expr} {world between after : World}
    (holds : Comes context expr frame world (.ok (.boolean truth) between))
    (others : Passes context frame truth rest between after) :
    Passes context frame truth (expr :: rest) world after

/--
Whether operands, taken in turn, come to something.

Those in front leave the result open. The next one decides: either it is the last, or it does not
leave the result open. What it ends with is what the chain ends with, unless it is no truth value.
-/
def InTurn (context : Context) (junction : Junction) (frame : Nat) (operands : List Expr)
    (world : World) (ending : Ending Value) : Prop :=
  ∃ front operand rest between found,
    operands = front ++ operand :: rest ∧
    Passes context frame junction.neutral front world between ∧
    Comes context operand frame between found ∧
    (rest = [] ∨ ∀ after, found ≠ .ok (.boolean junction.neutral) after) ∧
    ending = junction.settle found

/-- An arm of a selection. -/
structure Arm where
  /-- The name of the node, which nothing looks at. -/
  token : Option Name
  /-- What is tested. -/
  antecedent : Expr
  /-- What is chosen if the test holds. -/
  consequent : Expr

/-- An arm as a child of the node of a selection. -/
def Arm.expr (arm : Arm) : Expr :=
  .node .pair arm.token [arm.antecedent, arm.consequent]

/-- Whether an arm decides a selection: its consequent is chosen, its antecedent is no truth value,
or its antecedent fails. -/
def Arm.Decides (context : Context) (frame : Nat) (arm : Arm) (world : World)
    (ending : Ending Value) : Prop :=
  (∃ after, Comes context arm.antecedent frame world (.ok (.boolean true) after) ∧
    Comes context arm.consequent frame after ending) ∨
  (∃ value after, Comes context arm.antecedent frame world (.ok value after) ∧
    value.boolean? = none ∧ ending = raise (.typeMismatch .antecedent .boolean value.type) after) ∨
  ∃ stop after, Comes context arm.antecedent frame world (.error stop after) ∧
    ending = .error stop after

/-- Whether a selection from arms comes to something: the first arm whose antecedent does not yield
false decides, or there is no such arm. -/
def Selects (context : Context) (frame : Nat) (arms : List Arm) (world : World)
    (ending : Ending Value) : Prop :=
  (∃ after, Passes context frame false (arms.map Arm.antecedent) world after ∧
    ending = raise .noMatch after) ∨
  ∃ front arm rest between,
    arms = front ++ arm :: rest ∧
    Passes context frame false (front.map Arm.antecedent) world between ∧
    arm.Decides context frame between ending

/--
Whether some arms may stand for others, which are selected from in a world.

The antecedents that are reached are the same, and so is the consequent that is chosen.
-/
def SameReached (context : Context) (frame : Nat) : List Arm → List Arm → World → Prop
  | [], [], _ => True
  | arm :: rest, arm' :: rest', world =>
    arm'.antecedent = arm.antecedent ∧
    (∀ after, Comes context arm.antecedent frame world (.ok (.boolean true) after) →
      arm'.consequent = arm.consequent) ∧
    ∀ after, Comes context arm.antecedent frame world (.ok (.boolean false) after) →
      SameReached context frame rest rest' after
  | _, _, _ => False

namespace Junction

variable {context : Context} {frame : Nat} {world : World} (junction : Junction)

/-- What counts of an ending counts of what counts of it. -/
theorem settle_settle (found : Ending Value) :
    junction.settle (junction.settle found) = junction.settle found := by
  -- Truth values stay, and what is no truth value is a failure after the first time.
  cases found with
  | ok value after => cases value <;> rfl
  | error stop after => rfl

/-- What an operand ends with leaves the result open exactly when what counts of it does. -/
theorem settle_eq_boolean_iff {found : Ending Value} {truth : Bool} {after : World} :
    junction.settle found = .ok (.boolean truth) after ↔ found = .ok (.boolean truth) after := by
  -- Only truth values are left as they are, and no failure is one.
  cases found with
  | ok value after' =>
    cases value with
    | boolean other => exact Iff.rfl
    | _ => exact ⟨nofun, nofun⟩
  | error stop after => exact Iff.rfl

/-- The value of an operand if it is a truth value. -/
def truthOnly (value : Value) : Evaluation Value :=
  match value.boolean? with
  | some truth => return .boolean truth
  | none => raise (.badOperand junction.operation value.type)

/-- What is done behind the first of two operands. -/
def further (context : Context) (right : Expr) (frame : Nat) (value : Value) (steps : Nat) :
    Evaluation Value :=
  match value.boolean? with
  | some truth =>
    if truth = junction.neutral then eval context steps right frame >>= junction.truthOnly
    else return .boolean truth
  | none => raise (.badOperand junction.operation value.type)

/-- A node of a junction evaluates its first operand, and the second one where that matters. -/
theorem eval_node (steps : Nat) (left right : Expr) :
    eval context (steps + 1) (.plain junction.operation [left, right]) frame =
      eval context steps left frame >>= fun value =>
        junction.further context right frame value steps := by
  -- To ask for the truth of the second operand is to evaluate it and to look at its value.
  have second :
      (do return .boolean (← evalTruth (eval context steps) frame junction.operation right) :
        Evaluation Value) = eval context steps right frame >>= junction.truthOnly := by
    rw [evalTruth, bind_assoc]
    refine bind_congr fun value => ?_
    unfold truthOnly
    cases value.boolean? <;> rfl
  have first : eval context (steps + 1) (.plain junction.operation [left, right]) frame =
      evalShortCircuit (eval context steps) frame junction.operation [left, right] := by
    cases junction <;> rfl
  rw [first]
  change evalTruth _ _ _ left >>= _ = _
  rw [evalTruth, bind_assoc]
  refine bind_congr fun value => ?_
  unfold further
  -- Only the neutral truth value leads on to the second operand, in either kind of chain.
  cases value.boolean? with
  | none => cases junction <;> rfl
  | some truth => cases junction <;> cases truth <;> first | rfl | exact second

/-- The value of an operand is settled as an ending is. -/
theorem truthOnly_apply (value : Value) (world : World) :
    -- Both look at whether it is a truth value.
    junction.truthOnly value world = junction.settle (.ok value world) := by
  cases value <;> rfl

/-- What counts of a value is not that the steps have run out. -/
theorem not_isCut_settle_ok (value : Value) (world : World) :
    ¬(junction.settle (.ok value world)).IsCut := by
  -- It is a value or a failure.
  cases value <;> rintro ⟨_, same⟩ <;> cases same

/-- The second operand comes to what counts of what it ends with. -/
theorem comesTo_truthOnly {right : Expr} {ending : Ending Value} :
    ComesTo (fun steps => eval context steps right frame >>= junction.truthOnly) world ending ↔
      ∃ found, Comes context right frame world found ∧ ending = junction.settle found := by
  -- Looking at the value takes no steps, so that only the operand can run out of them.
  refine (comesTo_bind (lasting_eval context right frame)
    fun value => .const (junction.truthOnly value)).trans ⟨?_, ?_⟩
  · rintro (⟨value, between, comes, _, ended, -⟩ | ⟨stop, after, comes, rfl⟩)
    · exact ⟨_, comes, ended.symm.trans (junction.truthOnly_apply value between)⟩
    · exact ⟨_, comes, rfl⟩
  · rintro ⟨found, comes, rfl⟩
    cases found with
    | ok value after =>
      exact .inl ⟨value, after, comes, 0, junction.truthOnly_apply value after,
        junction.not_isCut_settle_ok value after⟩
    | error stop after => exact .inr ⟨stop, after, comes, rfl⟩

/-- Behind a first operand that leaves the result open, the second one is evaluated. -/
theorem further_neutral (right : Expr) :
    junction.further context right frame (.boolean junction.neutral) =
      fun steps => eval context steps right frame >>= junction.truthOnly :=
  funext fun _ => if_pos rfl

/-- Behind a first operand that decides, nothing is evaluated. -/
theorem further_of_ne {value : Value} (decides : value ≠ .boolean junction.neutral)
    (right : Expr) :
    junction.further context right frame value = fun _ => junction.truthOnly value := by
  -- Either the truth value is the other one, or it is no truth value at all.
  cases value with
  | boolean truth => exact funext fun _ => if_neg fun same => decides (congrArg Value.boolean same)
  | _ => rfl

/-- What is done behind the first operand is the same with more steps. -/
theorem lasting_further (right : Expr) (value : Value) :
    Lasting (junction.further context right frame value) := by
  -- It is the second operand that is evaluated, or nothing.
  by_cases opens : value = .boolean junction.neutral
  · rw [opens, further_neutral]
    exact .bind (lasting_eval context right frame) fun value => .const _
  · rw [junction.further_of_ne opens]
    exact .const _

/-- A node of a junction comes to what counts of its second operand if the first one leaves the
result open, and otherwise to what counts of the first one. -/
theorem comes_node {left right : Expr} {ending : Ending Value} :
    Comes context (.plain junction.operation [left, right]) frame world ending ↔
      (∃ between found, Comes context left frame world (.ok (.boolean junction.neutral) between) ∧
        Comes context right frame between found ∧ ending = junction.settle found) ∨
      ∃ found, Comes context left frame world found ∧
        (∀ after, found ≠ .ok (.boolean junction.neutral) after) ∧
        ending = junction.settle found := by
  -- What the node does is to evaluate the first operand and then what is behind it.
  rw [comes_iff_succ]
  simp only [eval_node]
  rw [comesTo_bind (lasting_eval context left frame) (junction.lasting_further right)]
  constructor
  · rintro (⟨value, between, comes, later⟩ | ⟨stop, after, comes, rfl⟩)
    · -- What happens behind the first operand depends only on whether it left the result open.
      by_cases opens : value = .boolean junction.neutral
      · subst opens
        rw [further_neutral, comesTo_truthOnly] at later
        obtain ⟨found, comes', same⟩ := later
        exact .inl ⟨between, found, comes, comes', same⟩
      · rw [junction.further_of_ne opens] at later
        obtain ⟨_, ended, -⟩ := later
        refine .inr ⟨_, comes, fun after same => opens (EStateM.Result.ok.inj same).1, ?_⟩
        exact ended.symm.trans (junction.truthOnly_apply value between)
    · -- A failure of the first operand is never neutral, so it decides.
      exact .inr ⟨_, comes, nofun, rfl⟩
  · rintro (⟨between, found, comes, comes', same⟩ | ⟨found, comes, decides, rfl⟩)
    · refine .inl ⟨_, between, comes, ?_⟩
      rw [further_neutral, comesTo_truthOnly]
      exact ⟨found, comes', same⟩
    · cases found with
      | ok value after =>
        refine .inl ⟨value, after, comes, ?_⟩
        have other : value ≠ .boolean junction.neutral := fun same => decides after (same ▸ rfl)
        rw [junction.further_of_ne other]
        exact ⟨0, junction.truthOnly_apply value after, junction.not_isCut_settle_ok value after⟩
      | error stop after => exact .inr ⟨stop, after, comes, rfl⟩

end Junction

/-! Operands in turn. -/

section Turns

variable {context : Context} {junction : Junction} {frame : Nat} {world : World}
  {operand : Expr} {rest : List Expr} {ending : Ending Value}

/-- Operands in turn: the first one decides, or it leaves the result to the others. -/
theorem inTurn_cons :
    InTurn context junction frame (operand :: rest) world ending ↔
      (∃ found, Comes context operand frame world found ∧
        (rest = [] ∨ ∀ after, found ≠ .ok (.boolean junction.neutral) after) ∧
        ending = junction.settle found) ∨
      ∃ between, Comes context operand frame world (.ok (.boolean junction.neutral) between) ∧
        InTurn context junction frame rest between ending := by
  constructor
  · rintro ⟨front, decider, behind, between, found, split, passes, comes, decides, same⟩
    -- Either there is nothing in front of the operand that decides, or the first one stands there.
    cases passes with
    | done =>
      obtain ⟨rfl, rfl⟩ := List.cons.inj split
      exact .inl ⟨found, comes, decides, same⟩
    | step holds others =>
      obtain ⟨rfl, rfl⟩ := List.cons.inj split
      exact .inr ⟨_, holds, _, decider, behind, between, found, rfl, others, comes, decides, same⟩
  · rintro (⟨found, comes, decides, same⟩ | ⟨between, holds, front, decider, behind, between',
      found, rfl, others, comes, decides, same⟩)
    · exact ⟨[], operand, rest, world, found, rfl, .done world, comes, decides, same⟩
    · exact ⟨operand :: front, decider, behind, between', found, rfl, .step holds others, comes,
        decides, same⟩

/-- Without operands there is nothing to decide. -/
theorem not_inTurn_nil : ¬InTurn context junction frame [] world ending := by
  -- No operand can be found in an empty row.
  rintro ⟨front, _, _, _, _, split, -⟩
  cases front <;> cases split

/-- An operand alone comes to what counts of what it ends with. -/
theorem inTurn_last :
    InTurn context junction frame [operand] world ending ↔
      ∃ found, Comes context operand frame world found ∧ ending = junction.settle found := by
  -- Nobody stands behind it to whom it could leave the result.
  rw [inTurn_cons]
  constructor
  · rintro (⟨found, comes, -, same⟩ | ⟨_, -, none⟩)
    · exact ⟨found, comes, same⟩
    · exact absurd none not_inTurn_nil
  · rintro ⟨found, comes, same⟩
    exact .inl ⟨found, comes, .inl rfl, same⟩

/-- An operand that leaves the result open after it has been settled did so before. -/
theorem Junction.settle_ne_neutral {found : Ending Value} :
    (∀ after, junction.settle found ≠ .ok (.boolean junction.neutral) after) ↔
      ∀ after, found ≠ .ok (.boolean junction.neutral) after :=
  forall_congr' fun _ => not_congr junction.settle_eq_boolean_iff

/-- The node of the first two operands may stand for them. -/
theorem inTurn_node {next : Expr} {others : List Expr} :
    InTurn context junction frame (.plain junction.operation [operand, next] :: others) world
        ending ↔
      InTurn context junction frame (operand :: next :: others) world ending := by
  rw [inTurn_cons, inTurn_cons]
  -- What the node ends with has been settled already, and settling it again changes nothing.
  constructor
  · rintro (⟨_, node, decides, rfl⟩ | ⟨after, node, later⟩)
    · rcases junction.comes_node.mp node with
        ⟨between, found, holds, comes, rfl⟩ | ⟨found, comes, decides', rfl⟩
      · rw [Junction.settle_ne_neutral] at decides
        rw [Junction.settle_settle]
        exact .inr ⟨between, holds, inTurn_cons.mpr (.inl ⟨found, comes, decides, rfl⟩)⟩
      · rw [Junction.settle_settle]
        exact .inl ⟨found, comes, .inr decides', rfl⟩
    · -- The node left the result open, so its second operand did, for the first one would decide.
      rcases junction.comes_node.mp node with
        ⟨between, found, holds, comes, same⟩ | ⟨found, comes, decides, same⟩
      · rw [junction.settle_eq_boolean_iff.mp same.symm] at comes
        exact .inr ⟨between, holds, inTurn_cons.mpr (.inr ⟨after, comes, later⟩)⟩
      · exact absurd (junction.settle_eq_boolean_iff.mp same.symm) (decides after)
  · rintro (⟨found, comes, decides, rfl⟩ | ⟨between, holds, later⟩)
    · have decides' := decides.resolve_left nofun
      refine .inl ⟨_, junction.comes_node.mpr (.inr ⟨found, comes, decides', rfl⟩), .inr ?_,
        (junction.settle_settle found).symm⟩
      exact Junction.settle_ne_neutral.mpr decides'
    · rcases inTurn_cons.mp later with ⟨found, comes, decides, rfl⟩ | ⟨after, holds', rest⟩
      · refine .inl ⟨_, junction.comes_node.mpr (.inl ⟨between, found, holds, comes, rfl⟩), ?_,
          (junction.settle_settle found).symm⟩
        exact decides.imp_right Junction.settle_ne_neutral.mpr
      · exact .inr ⟨after, junction.comes_node.mpr (.inl ⟨between, _, holds, holds', rfl⟩), rest⟩

/-- What counts of a chain is what its operands come to in turn. -/
theorem Junction.settle_chain (others : List Expr) :
    (∃ found, Comes context (junction.chain operand others) frame world found ∧
        ending = junction.settle found) ↔
      InTurn context junction frame (operand :: others) world ending := by
  -- The chain is nested to the left: the node of its first two operands comes first in the rest.
  induction others generalizing operand with
  | nil => exact inTurn_last.symm
  | cons next others ih => exact ih.trans inTurn_node

/-- A chain of two operands or more yields a truth value if it yields anything. -/
theorem Junction.comes_chain_settled {next : Expr} {others : List Expr} {found : Ending Value}
    (comes : Comes context (junction.chain operand (next :: others)) frame world found) :
    junction.settle found = found := by
  -- By induction on the operands, since the nodes of all but the last are within that of the last.
  induction others generalizing operand next with
  | nil =>
    rcases junction.comes_node.mp comes with ⟨_, inner, -, -, rfl⟩ | ⟨inner, -, -, rfl⟩ <;>
      exact junction.settle_settle inner
  | cons after others ih => exact ih comes

/-- A chain of two operands or more comes to what its operands come to in turn. -/
theorem Junction.comes_chain_iff (junction : Junction) {others : List Expr}
    (more : others ≠ []) :
    Comes context (junction.chain operand others) frame world ending ↔
      InTurn context junction frame (operand :: others) world ending := by
  -- A chain of one operand is that operand, which may yield something else than a truth value.
  obtain ⟨next, others, rfl⟩ := List.exists_cons_of_ne_nil more
  rw [← junction.settle_chain]
  constructor
  · intro comes
    exact ⟨ending, comes, (Junction.comes_chain_settled comes).symm⟩
  · rintro ⟨found, comes, rfl⟩
    rw [Junction.comes_chain_settled comes]
    exact comes

/-- A node leaves the result open only if both of its operands do. -/
theorem Junction.comes_node_neutral {next : Expr} {after : World}
    (node : Comes context (.plain junction.operation [operand, next]) frame world
      (.ok (.boolean junction.neutral) after)) :
    Passes context frame junction.neutral [operand, next] world after := by
  -- If the first operand decided, the node would not be neutral.
  rcases junction.comes_node.mp node with
    ⟨between, found, holds, comes, same⟩ | ⟨found, -, other, same⟩
  · rw [junction.settle_eq_boolean_iff.mp same.symm] at comes
    exact .step holds (.step comes (.done after))
  · exact absurd (junction.settle_eq_boolean_iff.mp same.symm) (other after)

variable {operand' : Expr} (decides : ∀ after,
    ¬Comes context operand frame world (.ok (.boolean junction.neutral) after))
  (first : ∀ steps,
    eval context steps operand' frame world = eval context steps operand frame world)

include decides first

/-- Behind a first operand that never leaves the result open, a second one makes no difference. -/
theorem Junction.eval_node_of_decides (next next' : Expr) (steps : Nat) :
    eval context steps (.plain junction.operation [operand', next']) frame world =
      eval context steps (.plain junction.operation [operand, next]) frame world := by
  -- Without steps both are cut off, and otherwise the first operand is evaluated.
  cases steps with
  | zero => rfl
  | succ steps =>
    rw [junction.eval_node, junction.eval_node]
    cases here : eval context steps operand frame world with
    | ok value after =>
      -- With any number of steps the first operand decides, so the second one is not reached.
      have other : value ≠ .boolean junction.neutral := by
        rintro rfl
        exact decides after ⟨steps, here, Ending.not_isCut_ok⟩
      rw [bind_apply_ok here, bind_apply_ok ((first steps).trans here),
        junction.further_of_ne other, junction.further_of_ne other]
    | error stop after =>
      rw [bind_apply_error here, bind_apply_error ((first steps).trans here)]

/-- Behind a first operand that never leaves the result open, others make no difference. -/
theorem Junction.eval_chain_of_decides {others others' : List Expr}
    (count : others'.length = others.length) (steps : Nat) :
    eval context steps (junction.chain operand' others') frame world =
      eval context steps (junction.chain operand others) frame world := by
  -- Nodes are added outside: a node whose first operand decides is one that decides in its turn.
  induction others generalizing operand operand' others' with
  | nil =>
    obtain rfl := List.length_eq_zero_iff.mp count
    exact first steps
  | cons next others ih =>
    obtain ⟨next', others', rfl⟩ := List.exists_cons_of_length_eq_add_one count
    have stays (after : World) (node : Comes context (.plain junction.operation [operand, next])
        frame world (.ok (.boolean junction.neutral) after)) : False := by
      cases Junction.comes_node_neutral node with
      | step holds others => exact decides _ holds
    exact ih stays (Junction.eval_node_of_decides decides first next next')
      (Nat.succ.inj (by simpa using count))

omit decides first

/-- Behind operands that do not all leave the result open, others make no difference. -/
theorem Junction.eval_chain_congr {front rest rest' : List Expr}
    (decides : ∀ after, ¬Passes context frame junction.neutral (operand :: front) world after)
    (count : rest'.length = rest.length) (steps : Nat) :
    eval context steps (junction.chain operand (front ++ rest')) frame world =
      eval context steps (junction.chain operand (front ++ rest)) frame world := by
  -- The first two operands in front are taken together until one node is left of all of them.
  induction front generalizing operand with
  | nil =>
    refine Junction.eval_chain_of_decides (fun after holds => ?_) (fun _ => rfl) count steps
    exact decides after (.step holds (.done after))
  | cons next front ih =>
    refine ih fun after passes => ?_
    cases passes with
    | step node others =>
      cases Junction.comes_node_neutral node with
      | step holds second =>
        cases second with
        | step comes done =>
          cases done
          exact decides after (.step holds (.step comes others))

end Turns

/-! Selections. -/

section Selections

variable {context : Context} {frame : Nat} {world : World} {ending : Ending Value} {arm : Arm}
  {arms : List Arm}

/-- What is done with the value of an arm's antecedent. -/
def Arm.further (context : Context) (frame : Nat) (arm : Arm) (rest : Nat → Evaluation Value)
    (value : Value) (steps : Nat) : Evaluation Value :=
  match value.boolean? with
  | some true => eval context steps arm.consequent frame
  | some false => rest steps
  | none => raise (.typeMismatch .antecedent .boolean value.type)

/-- A selection within a number of steps below its node. -/
def selectFrom (context : Context) (frame : Nat) (arms : List Arm) (steps : Nat) :
    Evaluation Value :=
  evalSelect (eval context steps) frame (arms.map Arm.expr)

/-- A selection tests the antecedent of its first arm, and does what its value asks for. -/
theorem selectFrom_cons (arm : Arm) (arms : List Arm) :
    selectFrom context frame (arm :: arms) = fun steps =>
      eval context steps arm.antecedent frame >>= fun value =>
        arm.further context frame (selectFrom context frame arms) value steps := by
  funext steps
  change evalCondition (eval context steps) frame .antecedent arm.antecedent >>= _ = _
  -- What is done with the value is the same on both sides, whatever the value is.
  rw [evalCondition, bind_assoc]
  refine bind_congr fun value => ?_
  unfold Arm.further
  cases value.boolean? with
  | none => rfl
  | some truth => cases truth <;> rfl

/-- What is done with the value of an antecedent is the same with more steps. -/
theorem Arm.lasting_further {rest : Nat → Evaluation Value} (lasting : Lasting rest)
    (value : Value) : Lasting (arm.further context frame rest value) := by
  -- The consequent, the other arms and the failure are all the same with more steps.
  cases value with
  | boolean truth =>
    cases truth with
    | true => exact lasting_eval context arm.consequent frame
    | false => exact lasting
  | _ => exact .const _

/-- A selection is the same with more steps. -/
theorem lasting_selectFrom (arms : List Arm) : Lasting (selectFrom context frame arms) := by
  -- By induction on the arms.
  induction arms with
  | nil => exact .const (raise .noMatch)
  | cons arm arms ih =>
    rw [selectFrom_cons]
    exact .bind (lasting_eval context arm.antecedent frame) (Arm.lasting_further ih)

/-- The first arm decides, or it leaves the selection to the others. -/
theorem selects_cons :
    Selects context frame (arm :: arms) world ending ↔
      arm.Decides context frame world ending ∨
      ∃ between, Comes context arm.antecedent frame world (.ok (.boolean false) between) ∧
        Selects context frame arms between ending := by
  -- An arm that decides is the first one, or it stands among the others.
  constructor
  · rintro (⟨after, passes, same⟩ | ⟨front, decider, behind, between, split, passes, decides⟩)
    · -- No arm decides, and the first one is among those that leave the selection to the others.
      cases passes with
      | step holds others => exact .inr ⟨_, holds, .inl ⟨after, others, same⟩⟩
    · cases front with
      | nil =>
        obtain ⟨rfl, rfl⟩ := List.cons.inj split
        cases passes
        exact .inl decides
      | cons first front =>
        obtain ⟨rfl, rfl⟩ := List.cons.inj split
        cases passes with
        | step holds others =>
          exact .inr ⟨_, holds, .inr ⟨front, decider, behind, between, rfl, others, decides⟩⟩
  · rintro (decides | ⟨between, holds, ⟨after, others, same⟩ | ⟨front, decider, behind, between',
      rfl, others, decides⟩⟩)
    · exact .inr ⟨[], arm, arms, world, rfl, .done world, decides⟩
    · exact .inl ⟨after, .step holds others, same⟩
    · exact .inr ⟨arm :: front, decider, behind, between', rfl, .step holds others, decides⟩

/-- A selection without arms finds no match. -/
theorem selects_nil : Selects context frame [] world ending ↔ ending = raise .noMatch world := by
  -- Without arms no antecedent is tested.
  constructor
  · rintro (⟨after, passes, same⟩ | ⟨front, _, _, _, split, -⟩)
    · cases passes
      exact same
    · cases front <;> cases split
  · exact fun same => .inl ⟨world, .done world, same⟩

/-- A failure is not that the steps have run out. -/
theorem not_isCut_raise {α : Type} (error : EvalError) (world : World) :
    ¬Ending.IsCut ((raise error : Evaluation α) world) := nofun

/-- A selection comes to what the first arm decides whose antecedent does not yield false. -/
theorem comesTo_selectFrom :
    ComesTo (selectFrom context frame arms) world ending ↔
      Selects context frame arms world ending := by
  -- By induction on the arms, from whatever world the ones before them have led to.
  induction arms generalizing world with
  | nil => exact (comesTo_const (not_isCut_raise .noMatch world)).trans selects_nil.symm
  | cons arm arms ih =>
    rw [selectFrom_cons, selects_cons, comesTo_bind (lasting_eval context arm.antecedent frame)
      (Arm.lasting_further (lasting_selectFrom arms))]
    constructor
    · rintro (⟨value, between, comes, later⟩ | ⟨stop, after, comes, same⟩)
      · -- True chooses the consequent, false leaves it to the others, anything else is an error.
        cases value with
        | boolean truth =>
          cases truth with
          | true => exact .inl (.inl ⟨between, comes, later⟩)
          | false => exact .inr ⟨between, comes, ih.mp later⟩
        | _ =>
          refine .inl (.inr (.inl ⟨_, between, comes, rfl, ?_⟩))
          exact (comesTo_const (not_isCut_raise _ between)).mp later
      · exact .inl (.inr (.inr ⟨stop, after, comes, same⟩))
    · rintro ((⟨after, comes, later⟩ | ⟨value, after, comes, other, rfl⟩ |
        ⟨stop, after, comes, same⟩) | ⟨between, comes, later⟩)
      · exact .inl ⟨_, after, comes, later⟩
      · refine .inl ⟨value, after, comes, 0, ?_, not_isCut_raise _ after⟩
        rw [Arm.further, other]
      · exact .inr ⟨stop, after, comes, same⟩
      · exact .inl ⟨_, between, comes, ih.mpr later⟩

/-- The node of a selection comes to what its arms select. -/
theorem comes_select_iff {token : Option Name} :
    Comes context (.node .select token (arms.map Arm.expr)) frame world ending ↔
      Selects context frame arms world ending :=
  comes_iff_succ.trans comesTo_selectFrom

/-- Arms that are not reached, and consequents that are not chosen, make no difference. -/
theorem selectFrom_congr {arms' : List Arm} (same : SameReached context frame arms arms' world)
    (steps : Nat) :
    selectFrom context frame arms' steps world = selectFrom context frame arms steps world := by
  -- The world is generalized because the other arms are selected from behind the antecedent.
  induction arms generalizing arms' world with
  | nil =>
    cases arms' with
    | nil => rfl
    | cons arm' arms' => exact same.elim
  | cons arm arms ih =>
    cases arms' with
    | nil => exact same.elim
    | cons arm' arms' =>
      obtain ⟨antecedent, chosen, passed⟩ := same
      simp only [selectFrom_cons, antecedent]
      cases here : eval context steps arm.antecedent frame world with
      | error stop after => rw [bind_apply_error here, bind_apply_error here]
      | ok value after =>
        -- What is the same is told by what the antecedent comes to, and here it has come to it.
        have comes : Comes context arm.antecedent frame world (.ok value after) :=
          ⟨steps, here, Ending.not_isCut_ok⟩
        rw [bind_apply_ok here, bind_apply_ok here]
        cases value with
        | boolean truth =>
          cases truth with
          | true =>
            rw [Arm.further, Arm.further, chosen after comes]
            rfl
          | false => exact ih (passed after comes)
        | _ => rfl

/-- A selection goes the same, whatever is not reached of it. -/
theorem eval_select_congr {arms' : List Arm} {token : Option Name}
    (same : SameReached context frame arms arms' world) (steps : Nat) :
    eval context steps (.node .select token (arms'.map Arm.expr)) frame world =
      eval context steps (.node .select token (arms.map Arm.expr)) frame world := by
  -- Without steps both are cut off, and otherwise the arms are gone through.
  cases steps with
  | zero => rfl
  | succ steps => exact selectFrom_congr same steps

end Selections

end Scriptlet

import Scriptlet.Proofs.Build.Elision
import Scriptlet.Proofs.Build.Shape
import Scriptlet.Proofs.Interpreter.Limit
import Scriptlet.Proofs.Machine.Laziness

/-!
Chains of truth values and selections, from the tree to the value.

Main statement: a chain is built to operands that are evaluated in turn, a selection that passes the
check of shapes selects from its arms, and what is not reached of either may be anything that passes
the check.
-/

namespace Scriptlet

open Evaluation

namespace Junction

variable (junction : Junction) {separator : Char}

/-- What spells the word of a chain is read as its operation. -/
theorem chainOperation_eq_ok {text : String}
    (spelled : Text.Spelled junction.operation.spelling text) :
    Build.chainOperation junction.rule text = .ok junction.operation := by
  cases junction <;> exact Build.chainOperation_of_spelled spelled (by decide) rfl

/-- A tree of operands with the word of a chain between them means that chain. -/
theorem build_chain {builder : Builder} {first : Tree} {links : List (String × Tree)}
    {operand : Expr} {others : List Expr}
    (head : builder.build separator first = .ok operand)
    (rest : List.Forall₂ (fun link expr => Text.Spelled junction.operation.spelling link.1 ∧
      builder.build separator link.2 = .ok expr) links others) :
    builder.build separator (.node junction.rule (first :: Build.linked links)) =
      .ok (junction.chain operand others) := by
  -- Each of the words is read as the operation of the chain.
  have operators : List.Forall₂
      (fun link operation => Build.chainOperation junction.rule link.1 = .ok operation) links
      (others.map fun _ => junction.operation) :=
    List.forall₂_map_right_iff.mpr
      (rest.imp fun _ _ both => junction.chainOperation_eq_ok both.1)
  have operands : List.Forall₂ (fun link expr => Build.ascend separator link.2 = .ok expr)
      links others :=
    rest.imp fun _ _ both => Builder.ascend_of_build both.2
  have isChain : junction.rule.isChain = true := by cases junction <;> rfl
  have read := Build.ascend_chain isChain operators (Builder.ascend_of_build head) operands
  -- Both kinds of chains are nested to the left.
  have joins : Build.joinChain junction.rule (operand :: others)
      (others.map fun _ => junction.operation) = .ok (junction.chain operand others) := by
    cases junction <;> simp [Build.joinChain, rule, chain]
  exact Builder.build_of_ascend (read.trans joins) builder

/-- A chain of operands that pass the check of shapes passes it. -/
theorem validate_chain {operand : Expr} {others : List Expr} (first : operand.validate = .ok ())
    (rest : ∀ expr ∈ others, expr.validate = .ok ()) :
    (junction.chain operand others).validate = .ok () := by
  -- Each node has the two children that its operation asks for.
  refine Build.nestLeft_induct (fun operation member left right valid valid' => ?_) first rest
  obtain ⟨_, -, rfl⟩ := List.mem_map.mp member
  refine Expr.validate_node_iff.mpr ⟨?_, by simp [valid, valid']⟩
  refine Expr.checkNode_eq_ok_iff.mp ?_
  cases junction <;> rfl

end Junction

/-- What is built of the operands behind some operators passes the check of shapes. -/
theorem Builder.validate_of_forall₂ {builder : Builder} {separator : Char}
    {links : List (String × Tree)} {exprs : List Expr}
    (built : List.Forall₂ (fun link expr => builder.build separator link.2 = .ok expr) links
      exprs) :
    ∀ expr ∈ exprs, expr.validate = .ok () := by
  -- One operand after the other, each checked as it was built.
  induction built with
  | nil => exact nofun
  | cons first _ ih =>
    exact List.forall_mem_cons.mpr ⟨(inShape_of_build builder separator _ _ first).1, ih⟩

/-- The children of a selection that passes the check of shapes are arms. -/
theorem exists_arms {children : List Expr}
    (pairs : ∀ child ∈ children, child.operation? = some .pair)
    (valid : ∀ child ∈ children, child.validate = .ok ()) :
    ∃ arms : List Arm, children = arms.map Arm.expr := by
  -- One child after the other, each of which is a pair.
  induction children with
  | nil => exact ⟨[], rfl⟩
  | cons child children ih =>
    rw [List.forall_mem_cons] at pairs valid
    obtain ⟨arms, rfl⟩ := ih pairs.2 valid.2
    cases child with
    | literal token value => cases pairs.1
    | symbol name => cases pairs.1
    | node operation token parts =>
      -- It is a pair, and the check of shapes has counted its two parts.
      obtain rfl : operation = .pair := Option.some.inj pairs.1
      have checked := (Expr.validate_node_iff.mp valid.1).1
      obtain ⟨antecedent, consequent, rfl⟩ := Expr.children_of_accepts_two rfl checked.count
      exact ⟨⟨token, antecedent, consequent⟩ :: arms, rfl⟩

/-- A selection from arms passes the check of shapes if all that is in them does. -/
theorem validate_select {token : Option Name} {arms : List Arm}
    (valid : ∀ arm ∈ arms, arm.antecedent.validate = .ok () ∧ arm.consequent.validate = .ok ()) :
    (Expr.node .select token (arms.map Arm.expr)).validate = .ok () := by
  -- The node is told to have arms only, and each arm is a pair of two valid parts.
  refine Expr.validate_node_iff.mpr ⟨Expr.checkNode_eq_ok_iff.mp ?_, fun child member => ?_⟩
  · have none : (arms.map Arm.expr).find? (fun child => child.operation? != some .pair) = none := by
      simp [Arm.expr, Expr.operation?]
    simp only [Expr.checkNode_eq_ok_iff_count, Expr.checkChildren, none, and_true]
    rfl
  · obtain ⟨arm, listed, rfl⟩ := List.mem_map.mp member
    obtain ⟨antecedent, consequent⟩ := valid arm listed
    exact Expr.validate_node_iff.mpr ⟨Expr.checkNode_eq_ok_iff.mp rfl,
      by simp [antecedent, consequent]⟩

namespace Interpreter

variable (interpreter : Interpreter) (host : Host) {frame : Nat}

/-- Where the check of shapes passes, an expression is evaluated. -/
theorem evalIn_of_validate {expr : Expr} (valid : expr.validate = .ok ()) :
    interpreter.evalIn host expr frame =
      interpreter.perform (eval (interpreter.context host) steps expr frame) := by
  -- With nothing to report, the check leaves the world alone.
  rw [evalIn, valid]
  rfl

/-- Evaluations that end alike in the world of an interpreter come to the same for it. -/
theorem perform_congr {α : Type} {first second : Evaluation α}
    (same : first interpreter.world = second interpreter.world) :
    interpreter.perform first = interpreter.perform second := by
  rw [perform, perform, same]

/-- An evaluation runs out of steps, or an interpreter takes over what the expression comes to. -/
theorem evalIn_comes {expr : Expr} (valid : expr.validate = .ok ()) :
    (interpreter.evalIn host expr frame).1 = .error .exhausted ∨
      ∃ ending, Comes (interpreter.context host) expr frame interpreter.world ending ∧
        interpreter.evalIn host expr frame = interpreter.perform fun _ => ending := by
  rw [interpreter.evalIn_of_validate host valid]
  -- Either the steps are too few, or what the run ends in is what the expression comes to.
  by_cases cut : Ending.IsCut (eval (interpreter.context host) steps expr frame interpreter.world)
  · obtain ⟨world, cut⟩ := cut
    exact .inl (by rw [perform, cut])
  · exact .inr ⟨_, ⟨steps, rfl, cut⟩, rfl⟩

/--
Chains of truth values and selections look at no more of their parts than they need.

A tree of operands with the word of a chain between them is built to a chain that comes to what its
operands come to in turn; a selection comes to what the first arm decides whose antecedent does not
yield false. Operands behind one that decides, arms behind one that decides, and consequents that
are not chosen may be replaced by anything that passes the check of shapes: the interpreter comes to
the same result and the same world.
-/
theorem laziness :
    (∀ (junction : Junction) (builder : Builder) (first : Tree) (links : List (String × Tree))
      (operand : Expr) (others : List Expr), links ≠ [] →
      builder.build interpreter.separator first = .ok operand →
      List.Forall₂ (fun link expr => Text.Spelled junction.operation.spelling link.1 ∧
        builder.build interpreter.separator link.2 = .ok expr) links others →
      builder.build interpreter.separator (.node junction.rule (first :: Build.linked links)) =
          .ok (junction.chain operand others) ∧
        (∀ frame world ending,
          Comes (interpreter.context host) (junction.chain operand others) frame world ending ↔
            InTurn (interpreter.context host) junction frame (operand :: others) world ending) ∧
        ∀ front rest rest' frame, others = front ++ rest → rest'.length = rest.length →
          (∀ expr ∈ rest', expr.validate = .ok ()) →
          (∀ after, ¬Passes (interpreter.context host) frame junction.neutral (operand :: front)
            interpreter.world after) →
          interpreter.evalIn host (junction.chain operand (front ++ rest')) frame =
            interpreter.evalIn host (junction.chain operand others) frame) ∧
    (∀ (token : Option Name) (children : List Expr),
      (Expr.node .select token children).validate = .ok () →
      ∃ arms : List Arm, children = arms.map Arm.expr) ∧
    (∀ (token : Option Name) (arms : List Arm) (frame : Nat),
      (∀ world ending,
        Comes (interpreter.context host) (.node .select token (arms.map Arm.expr)) frame world
          ending ↔ Selects (interpreter.context host) frame arms world ending) ∧
      ((Expr.node .select token (arms.map Arm.expr)).validate = .ok () →
        ∀ arms', SameReached (interpreter.context host) frame arms arms' interpreter.world →
          (∀ arm ∈ arms', arm.antecedent.validate = .ok () ∧ arm.consequent.validate = .ok ()) →
          interpreter.evalIn host (.node .select token (arms'.map Arm.expr)) frame =
            interpreter.evalIn host (.node .select token (arms.map Arm.expr)) frame)) ∧
    ∀ (expr : Expr) (frame : Nat), expr.validate = .ok () →
      (interpreter.evalIn host expr frame).1 = .error .exhausted ∨
        ∃ ending, Comes (interpreter.context host) expr frame interpreter.world ending ∧
          interpreter.evalIn host expr frame = interpreter.perform fun _ => ending := by
  refine ⟨?_, ?_, ?_, fun expr frame valid => interpreter.evalIn_comes host valid⟩
  · -- A chain is built to operands in turn.
    intro junction builder first links operand others more head rest
    have some : others ≠ [] := by
      rintro rfl
      exact more (List.forall₂_nil_right_iff.mp rest)
    refine ⟨junction.build_chain head rest, fun frame world ending => junction.comes_chain_iff some,
      ?_⟩
    rintro front others others' frame rfl count valid decides
    -- What is built passes the check of shapes, and so does what stands for it.
    have builds : ∀ expr ∈ front ++ others, expr.validate = .ok () :=
      Builder.validate_of_forall₂ (rest.imp fun _ _ both => both.2)
    have validHead := (Builder.inShape_of_build builder _ _ _ head).1
    have validOthers : ∀ expr ∈ front ++ others', expr.validate = .ok () :=
      List.forall_mem_append.mpr ⟨(List.forall_mem_append.mp builds).1, valid⟩
    rw [interpreter.evalIn_of_validate host (junction.validate_chain validHead builds),
      interpreter.evalIn_of_validate host (junction.validate_chain validHead validOthers)]
    exact interpreter.perform_congr (Junction.eval_chain_congr decides count steps)
  · -- The check of shapes lets a selection have nothing but arms.
    intro token children valid
    obtain ⟨checked, parts⟩ := Expr.validate_node_iff.mp valid
    exact exists_arms (checked.arms rfl) parts
  · -- Both selections pass the check, so that only what is reached of them counts.
    intro token arms frame
    refine ⟨fun world ending => comes_select_iff, fun valid arms' same valid' => ?_⟩
    rw [interpreter.evalIn_of_validate host valid,
      interpreter.evalIn_of_validate host (validate_select valid')]
    exact interpreter.perform_congr (eval_select_congr same steps)

/-- False and a name that nothing binds, as a tree. -/
def decidedTree : Tree :=
  .node .conjunction [.node .boolean [.terminal "FALSE"], .terminal "And",
    .node .symbol [.terminal "nowhere"]]

/-- What stands behind false is not looked at, nor is what stands behind a chosen consequent. -/
theorem laziness_decidedTree :
    let interpreter := start { intrinsics := false } '.' []
    let host : Host := fun _ _ => ⟨.ok .emptyList, false⟩
    let yes : Expr := .constant (.boolean true)
    let no : Expr := .constant (.boolean false)
    let select (antecedent consequent : Expr) : Expr :=
      .node .select none [.plain .pair [yes, no], .plain .pair [antecedent, consequent]]
    (interpreter.run host decidedTree .visitor).1 = .ok (.boolean false) ∧
      (∀ expr : Expr, expr.validate = .ok () →
        interpreter.evaluate host (.plain .both [no, expr]) =
          interpreter.evaluate host (.plain .both [no, .symbol ⟨"NOWHERE"⟩])) ∧
      ∀ antecedent consequent : Expr, antecedent.validate = .ok () → consequent.validate = .ok () →
        interpreter.evaluate host (select antecedent consequent) =
          interpreter.evaluate host (select yes yes) := by
  intro interpreter host yes no select
  obtain ⟨chains, -, selections, -⟩ := laziness interpreter host
  obtain ⟨built, -, replaced⟩ := chains .conjunctive .visitor (.node .boolean [.terminal "FALSE"])
    [("And", .node .symbol [.terminal "nowhere"])] no [.symbol ⟨"NOWHERE"⟩] (by simp) rfl
    (.cons ⟨by decide, rfl⟩ .nil)
  have decided (after : World) : ¬Passes (interpreter.context host) root true [no]
      interpreter.world after := by
    -- False is no true, however many steps are taken.
    rintro (_ | ⟨⟨steps, ended, -⟩, -⟩)
    cases steps <;> cases ended
  refine ⟨?_, fun expr valid => ?_, fun antecedent consequent valid valid' => ?_⟩
  · have ran := run_of_build host interpreter built
    exact (congrArg Prod.fst ran).trans rfl
  · exact replaced [] [.symbol ⟨"NOWHERE"⟩] [expr] root rfl rfl (by simpa using valid) decided
  · refine (selections none [⟨none, yes, no⟩, ⟨none, yes, yes⟩] root).2 rfl
      [⟨none, yes, no⟩, ⟨none, antecedent, consequent⟩] ?_ ?_
    · refine ⟨rfl, fun _ _ => rfl, ?_⟩
      rintro after ⟨steps, ended, -⟩
      cases steps <;> cases ended
    · simpa using ⟨⟨rfl, rfl⟩, valid, valid'⟩

end Interpreter

end Scriptlet

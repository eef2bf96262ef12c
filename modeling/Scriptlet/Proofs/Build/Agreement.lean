import Scriptlet.Build.Builder
import Scriptlet.Proofs.Build.Ascent

/-!
The two builders build the same expressions.

They look at a node's own tokens at different times, so with several faults in a tree they may
tell different ones. Where every node's own tokens are in order, they tell the same one.
-/

namespace Scriptlet

namespace Rule

/-- No leaf collects parts. -/
theorem not_collects_of_isLexical (rule : Rule) (lexical : rule.isLexical = true) :
    rule.collects = false := by
  -- The table of rules settles it.
  cases rule <;> simp_all [isLexical, collects]

/-- No chain collects parts. -/
theorem not_collects_of_isChain (rule : Rule) (joined : rule.isChain = true) :
    rule.collects = false := by
  -- No rule stands in both tables.
  cases rule <;> simp_all [isChain, collects]

/-- Nothing that may be signed collects parts. -/
theorem not_collects_of_isSigned (rule : Rule) (signed : rule.isSigned = true) :
    rule.collects = false := by
  -- Only the two rules for signs are left, and neither collects.
  cases rule <;> simp_all [isSigned, collects]

end Rule

namespace Build

/-- Whether a node's own tokens are in order: what its rule reads of them, if it reads any. -/
def tokensPass (rule : Rule) (children : List Tree) : Bool :=
  if rule.isLexical then (onlyToken rule children).isOk
  else if rule.isChain then (chain rule children).isOk
  else if rule.isSigned then (sign rule children).isOk
  else true

/-- The one token of a leaf is all there is in it. -/
theorem children_of_onlyToken {rule : Rule} {children : List Tree} {text : String}
    (only : onlyToken rule children = .ok text) : children = [.terminal text] := by
  -- Any other row of children is refused.
  unfold onlyToken at only
  split at only
  · simpa using only
  · simp at only

/-- A chain that is accepted is put together by joining its parts. -/
theorem assemble_of_chain {rule : Rule} {children operands : List Tree}
    {operations : List Operation} (isChain : rule.isChain = true)
    (accepted : chain rule children = .ok (operands, operations)) (separator : Char)
    (parts : List Expr) :
    assemble separator rule children parts = joinChain rule parts operations := by
  have lexical : rule.isLexical = false := rule.not_isLexical_of_isChain isChain
  have collects := rule.not_collects_of_isChain isChain
  -- A chain neither is a leaf nor collects its parts, so that joining is the branch taken.
  simp [assemble, isChain, lexical, collects, accepted]

/-- A node whose tokens are in order can as well be read after the nodes below it. -/
theorem descend_of_tokensPass {separator : Char} {rule : Rule} {children : List Tree}
    (pass : tokensPass rule children = true) :
    descend separator (.node rule children) = (do
      let parts ← descendAll separator children
      assemble separator rule children parts) := by
  unfold tokensPass at pass
  unfold descend assemble
  by_cases lexical : rule.isLexical = true
  · -- A leaf in order has no nodes below it.
    simp only [if_pos lexical] at pass ⊢
    obtain ⟨text, only⟩ := exists_of_isOk pass
    rw [children_of_onlyToken only]
    simp [descendAll, Rule.not_collects_of_isLexical rule lexical]
  simp only [if_neg lexical] at pass ⊢
  by_cases joined : rule.isChain = true
  · -- A chain in order cannot fail any more once its operands are read.
    simp only [if_pos joined] at pass ⊢
    obtain ⟨⟨operands, operations⟩, accepted⟩ := exists_of_isOk pass
    simp [accepted, Rule.not_collects_of_isChain rule joined]
  simp only [if_neg joined] at pass ⊢
  by_cases collects : rule.collects = true
  · -- What collects its parts has no tokens to look at first.
    simp only [if_pos collects]
  simp only [if_neg collects]
  by_cases signed : rule.isSigned = true
  · -- The sign is read once more when the operand is there.
    simp only [if_pos signed] at pass ⊢
    obtain ⟨operation, read⟩ := exists_of_isOk pass
    rw [read]
    rfl
  · -- Other nodes look at no tokens either.
    simp only [if_neg signed]

/-- A descent does not get past a node whose tokens are out of order. -/
theorem descend_fails (separator : Char) {rule : Rule} {children : List Tree}
    (fail : ¬tokensPass rule children = true) :
    ∃ error, descend separator (.node rule children) = .error error := by
  -- The check that fails is the first thing that the descent does at the node.
  unfold tokensPass at fail
  unfold descend
  by_cases lexical : rule.isLexical = true
  · -- A leaf is read at once.
    simp only [if_pos lexical] at fail ⊢
    obtain ⟨error, refused⟩ := exists_of_not_isOk fail
    exact ⟨error, by rw [readLeaf, refused]; rfl⟩
  simp only [if_neg lexical] at fail ⊢
  by_cases joined : rule.isChain = true
  · -- The operators of a chain are read before its operands.
    simp only [if_pos joined] at fail ⊢
    obtain ⟨error, refused⟩ := exists_of_not_isOk fail
    exact ⟨error, by rw [refused]; rfl⟩
  simp only [if_neg joined] at fail ⊢
  by_cases signed : rule.isSigned = true
  · -- So is a sign, before the operand behind it.
    simp only [if_pos signed] at fail
    obtain ⟨error, refused⟩ := exists_of_not_isOk fail
    exact ⟨error, by
      rw [Rule.not_collects_of_isSigned rule signed, if_neg (by simp), if_pos signed, refused]
      rfl⟩
  · -- Of all other nodes no token is out of order.
    simp [if_neg signed] at fail

/-- A node whose tokens are out of order is not put together from any parts. -/
theorem assemble_fails (separator : Char) {rule : Rule} {children : List Tree}
    (fail : ¬tokensPass rule children = true) (parts : List Expr) :
    ∃ error, assemble separator rule children parts = .error error := by
  -- The same check is made again, now that the parts are there.
  unfold tokensPass at fail
  unfold assemble
  by_cases lexical : rule.isLexical = true
  · simp only [if_pos lexical] at fail ⊢
    obtain ⟨error, refused⟩ := exists_of_not_isOk fail
    exact ⟨error, by rw [Rule.not_collects_of_isLexical rule lexical, readLeaf, refused]; rfl⟩
  simp only [if_neg lexical] at fail ⊢
  by_cases joined : rule.isChain = true
  · simp only [if_pos joined] at fail ⊢
    obtain ⟨error, refused⟩ := exists_of_not_isOk fail
    exact ⟨error, by rw [Rule.not_collects_of_isChain rule joined, refused]; rfl⟩
  simp only [if_neg joined] at fail ⊢
  by_cases signed : rule.isSigned = true
  · simp only [if_pos signed] at fail
    obtain ⟨error, refused⟩ := exists_of_not_isOk fail
    rw [Rule.not_collects_of_isSigned rule signed, if_neg (by simp)]
    -- Only the two rules for signs are left, and both read the sign before the operand.
    cases rule <;> simp [Rule.isSigned] at signed <;>
      exact ⟨error, by simp only [assembleFixed, refused]; rfl⟩
  · simp [if_neg signed] at fail

mutual

/-- A descent and an ascent build the same expressions. -/
theorem ascend_eq_ok_iff (separator : Char) (expr : Expr) : (tree : Tree) →
    (ascend separator tree = .ok expr ↔ descend separator tree = .ok expr)
  -- A token means nothing to either of them.
  | .terminal text => by simp [ascend, descend]
  | .node rule children => by
    -- In order, the node is put together from its parts by both, and the parts are the same.
    by_cases pass : tokensPass rule children = true
    · rw [descend_of_tokensPass pass]
      simp only [ascend, bind_eq_ok]
      -- The parts are built by one exactly if they are built by the other.
      exact exists_congr fun parts =>
        and_congr_left fun _ => ascendAll_eq_ok_iff separator parts children
    · -- Out of order, the node is built by neither.
      obtain ⟨error, failed⟩ := descend_fails separator pass
      rw [failed]
      simp only [ascend, bind_eq_ok, reduceCtorEq, iff_false]
      intro built
      obtain ⟨parts, -, built⟩ := built
      obtain ⟨reason, refused⟩ := assemble_fails separator pass parts
      rw [refused] at built
      cases built

/-- A descent and an ascent build the same expressions from trees in a row. -/
theorem ascendAll_eq_ok_iff (separator : Char) (exprs : List Expr) : (trees : List Tree) →
    (ascendAll separator trees = .ok exprs ↔ descendAll separator trees = .ok exprs)
  | [] => Iff.rfl
  | .terminal text :: rest => by
    simp only [ascendAll, descendAll]
    -- A token adds no part.
    exact ascendAll_eq_ok_iff separator exprs rest
  | .node rule children :: rest => by
    simp only [ascendAll, descendAll, bind_eq_ok]
    -- The first expression and the others are built by both, one after the other.
    exact exists_congr fun first =>
      and_congr (ascend_eq_ok_iff separator first (.node rule children)) <|
        exists_congr fun others =>
          and_congr_left fun _ => ascendAll_eq_ok_iff separator others rest

end

end Build

mutual

/-- Whether the tokens of every node of a tree are in order. -/
def Tree.tokensPass : Tree → Bool
  | .terminal _ => true
  | .node rule children => Build.tokensPass rule children && Tree.allTokensPass children

/-- Whether the tokens of every node of some trees are in order. -/
def Tree.allTokensPass : List Tree → Bool
  | [] => true
  | tree :: rest => tree.tokensPass && Tree.allTokensPass rest

end

namespace Build

mutual

/-- With all tokens in order, a descent and an ascent have the same outcome. -/
theorem ascend_eq_descend (separator : Char) : (tree : Tree) → tree.tokensPass = true →
    ascend separator tree = descend separator tree
  | .terminal text, _ => rfl
  | .node rule children, pass => by
    -- The node can be read after its parts, and these are read alike.
    simp only [Tree.tokensPass, Bool.and_eq_true] at pass
    rw [descend_of_tokensPass pass.1, ascend, ascendAll_eq_descendAll separator children pass.2]

/-- With all tokens in order, a descent and an ascent have the same outcome on trees in a row. -/
theorem ascendAll_eq_descendAll (separator : Char) : (trees : List Tree) →
    Tree.allTokensPass trees = true → ascendAll separator trees = descendAll separator trees
  | [], _ => rfl
  | .terminal text :: rest, pass => by
    -- A token is passed over by both.
    simp only [Tree.allTokensPass, Bool.and_eq_true] at pass
    simp only [ascendAll, descendAll]
    exact ascendAll_eq_descendAll separator rest pass.2
  | .node rule children :: rest, pass => by
    simp only [Tree.allTokensPass, Bool.and_eq_true] at pass
    simp only [ascendAll, descendAll]
    -- One after the other, the nodes have the same outcome.
    rw [ascend_eq_descend separator (.node rule children) pass.1,
      ascendAll_eq_descendAll separator rest pass.2]

end

end Build

namespace Builder

/--
Both builders build the same expressions.

If every node's own tokens are in order, they also fail for the same reason.
-/
theorem build_agree (separator : Char) (tree : Tree) :
    (∀ expr, listener.build separator tree = .ok expr ↔ visitor.build separator tree = .ok expr) ∧
      (tree.tokensPass = true →
        listener.build separator tree = visitor.build separator tree) := by
  cases tree with
  -- A token alone is refused by both before either of them sets to work.
  | terminal text => exact ⟨fun _ => Iff.rfl, fun _ => rfl⟩
  | node rule children =>
    -- The stack does what an ascent does, whatever the tree.
    simp only [build, Build.stackUp_eq_ascend]
    exact ⟨fun expr => Build.ascend_eq_ok_iff separator expr _, Build.ascend_eq_descend separator _⟩

/-- A sum of a letter and a number beyond all bounds: two faults, and both builders tell one. -/
theorem build_agree_two_faults :
    (Tree.node .sum [.node .integer [.terminal "x"], .terminal "+",
      .node .integer [.terminal "99999999999999999999"]]).tokensPass = true ∧
    listener.build '.' (Tree.node .sum [.node .integer [.terminal "x"], .terminal "+",
      .node .integer [.terminal "99999999999999999999"]]) =
    visitor.build '.' (Tree.node .sum [.node .integer [.terminal "x"], .terminal "+",
      .node .integer [.terminal "99999999999999999999"]]) := by
  -- Each of the three nodes holds the tokens that its rule asks for.
  have pass : (Tree.node .sum [.node .integer [.terminal "x"], .terminal "+",
      .node .integer [.terminal "99999999999999999999"]]).tokensPass = true := by decide
  exact ⟨pass, (build_agree '.' _).2 pass⟩

end Builder

end Scriptlet

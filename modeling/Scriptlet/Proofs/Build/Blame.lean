import Scriptlet.Proofs.Build.Ascent

/-!
Whom a failed build is blamed on.

Main statement: what is told of a tree that is not built is wrong with the tree; the faults that
would lie in how nodes are put together do not come up.
-/

namespace Scriptlet

/-- Whether a fault lies in how nodes are put together, so that no tree is to blame for it. -/
def TreeFault.isOwn : TreeFault → Bool
  | partsMissing | strayMark | markMissing | notCollecting => true
  | countsDiffer | emptyChain => true
  | markLeft | notOneLeft _ => true
  | _ => false

/-- Whether an error is one that no tree is to blame for. -/
def BuildError.isOwn : BuildError → Bool
  | malformed _ fault => fault.isOwn
  | _ => false

namespace Build

/-- Whether an outcome, if it is a failure, is one that a tree is to blame for. -/
abbrev Blames {α : Type} (outcome : Except BuildError α) : Prop :=
  FailsAs (fun error => error.isOwn = false) outcome

variable (separator : Char)

/-- A leaf is only told what is wrong with its token. -/
theorem blames_leaf (rule : Rule) (text : String) : Blames (leaf separator rule text) := by
  intro error failed
  -- The rules for leaves have readers of their own, and the other rules have none.
  cases rule with
  | integer | real | boolean | symbol | type =>
    simp only [leaf, integerLeaf, realLeaf, booleanLeaf, symbolLeaf, typeLeaf] at failed
    split at failed <;> cases failed
    rfl
  | string => cases failed
  | _ =>
    cases failed
    rfl

/-- What is wrong with a leaf is wrong with its token, or with what stands beside it. -/
theorem blames_readLeaf (rule : Rule) (children : List Tree) :
    Blames (readLeaf separator rule children) := by
  -- It has one token and nothing else, or it is out of order.
  refine FailsAs.bind (fun error failed => ?_) (blames_leaf separator rule)
  unfold onlyToken at failed
  split at failed <;> cases failed
  rfl

/-- A token between operands is blamed if no operator is spelled so. -/
theorem blames_chainOperation (rule : Rule) (text : String) :
    Blames (chainOperation rule text) := by
  intro error failed
  -- The operator is unknown, or it is one that the rule does not have.
  unfold chainOperation at failed
  split at failed
  · split at failed <;> cases failed
    rfl
  · cases failed
    rfl

/-- Operands and operators that do not take turns are the fault of the tree. -/
theorem blames_chainFrom (rule : Rule) (position : Nat) (children : List Tree) :
    Blames (chainFrom rule position children) := by
  -- The place of the first one that is out of turn is told, so the position stays quantified over.
  induction children generalizing position with
  | nil => exact .ok _
  | cons child rest ih =>
    have told : BuildError.isOwn (.malformed rule (.notAlternating position)) = false := rfl
    cases child with
    | node inner below =>
      -- An operand is looked at again only if it stands where it should.
      simp only [chainFrom]
      split
      · exact .error told
      · exact (ih _).bind fun _ => .ok _
    | terminal text =>
      -- An operator may also be one that the rule does not know.
      simp only [chainFrom]
      split
      · exact .error told
      · exact (blames_chainOperation rule text).bind fun _ => (ih _).bind fun _ => .ok _

/-- A sign that is none is the fault of the tree. -/
theorem blames_sign (rule : Rule) (signed : rule.isSigned = true) (children : List Tree) :
    Blames (sign rule children) := by
  -- There is no sign, one that is known, or something else in its place.
  intro error failed
  unfold sign at failed
  split at failed
  case h_1 none =>
    -- Each of the two rules has its operator.
    cases rule <;> first | cases (none : some _ = _) | cases signed
  case h_2 =>
    split at failed
    · cases failed
    · split at failed <;> cases failed
      rfl
    · cases failed
      rfl

/-- A node that holds more or fewer parts than one is out of order. -/
theorem blames_one (rule : Rule) (parts : List Expr) : Blames (one rule parts) := by
  -- One part is handed on, and any other number is told.
  intro error failed
  unfold one at failed
  split at failed <;> cases failed
  rfl

/-- A node that holds more or fewer parts than two is out of order. -/
theorem blames_two (rule : Rule) (parts : List Expr) : Blames (two rule parts) := by
  -- Two parts are handed on, and any other number is told.
  intro error failed
  unfold two at failed
  split at failed <;> cases failed
  rfl

/-- A node with a fixed number of parts is told their number, or what is wrong with its tokens. -/
theorem blames_assembleFixed (rule : Rule) (children : List Tree) (parts : List Expr) :
    Blames (assembleFixed rule children parts) := by
  -- The two rules for signs look for the sign first, and then for the operand.
  have signs (signed : rule.isSigned = true) : Blames (do
      let operation ← sign rule children
      return applySign operation (← one rule parts)) :=
    (blames_sign rule signed children).bind fun _ => (blames_one rule parts).bind fun _ => .ok _
  cases rule with
  | binding =>
    -- The parts are counted, and then the first of them has to be a name.
    refine (blames_two .binding parts).bind fun both error failed => ?_
    simp only [bind] at failed
    split at failed <;> cases failed
    rfl
  | loop =>
    -- What is repeated has to be a block.
    refine (blames_two .loop parts).bind fun both error failed => ?_
    simp only [loop] at failed
    split at failed <;> cases failed
    rfl
  | parameter =>
    -- Both parts of a parameter have to be names.
    refine (blames_two .parameter parts).bind fun both error failed => ?_
    simp only [parameter] at failed
    split at failed <;> cases failed
    rfl
  | block =>
    -- A block may hold one part or none, and is blamed for more.
    intro error failed
    simp only [assembleFixed, block] at failed
    split at failed
    · cases failed
    · split at failed <;> cases failed
    · cases failed
      rfl
  | denial => exact signs rfl
  | signed => exact signs rfl
  | _ => exact blames_one _ parts

/-- A definition is told what is wrong with its parameters or its body. -/
theorem blames_define (rule : Rule) (name : Option Name) (parts : List Expr) :
    Blames (define rule name parts) := by
  -- What is out of shape in a definition is told as the fault that it is.
  intro error failed
  unfold define at failed
  split at failed <;> cases failed
  rfl

/-- A node that collects its parts is told what is wrong with them. -/
theorem blames_assembleAny (rule : Rule) (collects : rule.collects = true) (parts : List Expr) :
    Blames (assembleAny rule parts) := by
  -- Each rule that collects has a constructor of its own, and all other rules are excluded.
  intro error failed
  cases rule with
  -- Sequences and lists take any parts.
  | sequence | list => cases failed
  | namedDefinition =>
    -- A definition with a name has the name in front of what else defines it.
    simp only [assembleAny, defineNamed] at failed
    split at failed
    · cases failed
      rfl
    · exact blames_define _ _ _ error failed
    · cases failed
      rfl
  | anonymousDefinition => exact blames_define _ _ _ error failed
  | selection =>
    -- An antecedent at the end has no consequent to be paired up with.
    simp only [assembleAny, select] at failed
    split at failed <;> cases failed
    rfl
  | call =>
    -- A call needs a function in front of its arguments, by name or by definition.
    simp only [assembleAny, call] at failed
    split at failed <;> cases failed
    all_goals rfl
  | _ => cases collects

/-- A chain is told where it goes out of order, or that it ends in an operator. -/
theorem blames_chain (rule : Rule) (children : List Tree) : Blames (chain rule children) := by
  -- Once operands and operators take turns, only their numbers can be out of order.
  refine (blames_chainFrom rule 0 children).bind fun parted error failed => ?_
  simp only at failed
  split at failed <;> cases failed
  rfl

/-- A chain that is accepted has one operand more than operators, so that it can be joined. -/
theorem exists_joinChain {rule : Rule} {children operands : List Tree} {operations : List Operation}
    (accepted : chain rule children = .ok (operands, operations)) {parts : List Expr}
    (count : parts.length = (Tree.nodes children).length) :
    ∃ expr, joinChain rule parts operations = .ok expr := by
  -- The chain has been accepted by this very count.
  have lengths : parts.length = operations.length + 1 := by
    rw [count, ← chain_operands accepted]
    simp only [chain, bind_eq_ok] at accepted
    obtain ⟨⟨nodes, signs⟩, -, accepted⟩ := accepted
    simp only at accepted
    split at accepted
    · cases accepted
    case isFalse even =>
      cases accepted
      simpa using even
  unfold joinChain
  rw [if_neg (by simp [lengths])]
  -- There is an operand at least, as there is one more than there are operators.
  cases parts with
  | nil => cases lengths
  | cons first others => by_cases power : (rule == .power) = true <;> simp [power]

/-- A node with as many parts as there are nodes below it is only told what is wrong with it. -/
theorem blames_assemble (rule : Rule) {children : List Tree} {parts : List Expr}
    (count : parts.length = (Tree.nodes children).length) :
    Blames (assemble separator rule children parts) := by
  unfold assemble
  by_cases collects : rule.collects = true
  · -- Rules that collect look at their parts alone.
    rw [if_pos collects]
    exact blames_assembleAny rule collects parts
  rw [if_neg collects]
  by_cases lexical : rule.isLexical = true
  · rw [if_pos lexical]
    -- A leaf looks at its token alone.
    exact blames_readLeaf separator rule children
  rw [if_neg lexical]
  by_cases joined : rule.isChain = true
  · rw [if_pos joined]
    cases accepted : chain rule children with
    | ok result =>
      -- The chain is joined without a failure, as the numbers are in order.
      obtain ⟨expr, made⟩ := exists_joinChain accepted count
      simp only [ok_bind, made]
      exact .ok expr
    | error error =>
      -- Only the chain itself may be refused.
      exact .error (blames_chain rule children error accepted)
  · rw [if_neg joined]
    exact blames_assembleFixed rule children parts

mutual

/-- What fails on the way up is told of the tree. -/
theorem blames_ascend : (tree : Tree) → Blames (ascend separator tree)
  | .terminal _ => .error rfl
  | .node rule children => by
    intro error failed
    -- A failure below the node comes first; after that, only the node itself can fail.
    rcases bind_eq_error.mp failed with below | ⟨parts, read, here⟩
    · exact blames_ascendAll children error below
    · exact blames_assemble separator rule (ascendAll_length read) error here

/-- What fails on the way up through trees is told of one of them. -/
theorem blames_ascendAll : (trees : List Tree) → Blames (ascendAll separator trees)
  | [] => .ok []
  | .terminal _ :: rest => blames_ascendAll rest
  | .node rule children :: rest =>
    (blames_ascend (.node rule children)).bind fun _ => (blames_ascendAll rest).bind fun _ => .ok _

end

end Build

end Scriptlet

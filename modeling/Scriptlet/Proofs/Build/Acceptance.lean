import Mathlib.Data.Set.List
import Scriptlet.Proofs.Build.Elision
import Scriptlet.Proofs.Build.Grammar
import Scriptlet.Proofs.Build.Shape
import Scriptlet.Proofs.Expr.Tidy

/-!
Both builders accept the whole grammar.

Main statement: a tree that the grammar allows is built, and in what is built of it pairs stand only
where they are arms of a selection or parameters of a definition, and types go by their names.
-/

namespace Scriptlet

namespace Rule

open Expr

/-- What a node of a rule comes to. -/
def Describes : Rule → Expr → Prop
  | sequence, expr | block, expr => ∃ items, expr = plain .sequence items
  | symbol, expr => ∃ name, expr = .symbol name
  | type, expr => ∃ type : ValueType, expr = .symbol ⟨type.name⟩
  | parameter, expr => ∃ param, expr = typed param
  | anonymousDefinition, expr => ∃ parts, expr = plain .define parts
  | callee, expr => (∃ name, expr = .symbol name) ∨ ∃ parts, expr = plain .define parts
  | _, _ => True

/-- Whether an expression is what the grammar promises for a node of a rule. -/
structure Yields (rule : Rule) (expr : Expr) : Prop where
  /-- It is of the sort that the rule describes. -/
  describes : rule.Describes expr
  /-- It is tidy all through. -/
  tidy : expr.AllNodes Tidy
  /-- It is no pair, unless it is a parameter. -/
  free : rule ≠ parameter → expr.operation? ≠ some .pair

variable {rule : Rule} {expr : Expr}

/-- What a node of any other rule yields is clear. -/
theorem Yields.clear (yields : rule.Yields expr) (other : rule ≠ parameter) : expr.Clear :=
  ⟨yields.tidy, yields.free other⟩

/-- A clear expression that the rule describes is what the grammar promises. -/
theorem Yields.of_clear (clear : expr.Clear) (describes : rule.Describes expr) :
    rule.Yields expr :=
  ⟨describes, clear.1, fun _ => clear.2⟩

end Rule

namespace Form

open Expr

/-- What the nodes among trees of a form come to, from left to right. -/
def Means : Form → List Expr → Prop
  | token _, parts => parts = []
  | node rules, parts => ∃ rule ∈ rules, ∃ expr, parts = [expr] ∧ rule.Yields expr
  | nothing, parts => parts = []
  | both first second, parts =>
    ∃ left right, parts = left ++ right ∧ Means first left ∧ Means second right
  | either first second, parts => Means first parts ∨ Means second parts
  | many part, parts => ∃ rows : List (List Expr), parts = rows.flatten ∧ ∀ row ∈ rows, Means part row

variable {separator : Char} {rule : Rule} {rules : List Rule} {parts : List Expr}

/-- Whether there are no parameters among the nodes of a form. -/
def plain : Form → Bool
  | token _ | nothing => true
  | node rules => !rules.contains .parameter
  | both first second | either first second => plain first && plain second
  | many part => plain part

/-- Without parameters, a form stands for clear expressions only. -/
theorem clear_of_means {form : Form} (free : form.plain = true) (means : form.Means parts) :
    ∀ part ∈ parts, part.Clear := by
  -- Whatever the form is made of, all expressions come from single nodes in the end.
  induction form generalizing parts with
  | token | nothing =>
    -- A token adds no expression, and neither does nothing.
    cases means
    simp
  | node rules =>
    -- The rule of the node is one of those listed, so that it is none for parameters.
    obtain ⟨rule, listed, expr, rfl, yields⟩ := means
    have other : rule ≠ .parameter := by
      rintro rfl
      simp [plain, listed] at free
    simpa using yields.clear other
  | both first second ih ih' =>
    simp only [plain, Bool.and_eq_true] at free
    -- The expressions come from the first form or from the second one.
    obtain ⟨left, right, rfl, front, back⟩ := means
    exact List.forall_mem_append.mpr ⟨ih free.1 front, ih' free.2 back⟩
  | either first second ih ih' =>
    simp only [plain, Bool.and_eq_true] at free
    exact means.elim (ih free.1) (ih' free.2)
  | many part ih =>
    obtain ⟨rows, rfl, each⟩ := means
    -- Every expression comes from one of the repetitions.
    intro part member
    obtain ⟨row, inside, member⟩ := List.mem_flatten.mp member
    exact ih free (each row inside) part member

/-- An operand stands for one clear expression. -/
theorem means_operand (means : operand.Means parts) : ∃ expr, parts = [expr] ∧ expr.Clear := by
  -- No rule for operands is the one for parameters.
  have clear := clear_of_means (by decide) means
  obtain ⟨rule, listed, expr, rfl, yields⟩ := means
  exact ⟨expr, rfl, clear expr List.mem_cons_self⟩

/-- A form for one node of a rule stands for what the rule yields. -/
theorem means_only (means : (node [rule]).Means parts) :
    ∃ expr, parts = [expr] ∧ rule.Yields expr := by
  -- The rule of the node is the only one that is listed.
  obtain ⟨rule', listed, expr, rfl, yields⟩ := means
  rw [List.mem_singleton] at listed
  exact ⟨expr, rfl, listed ▸ yields⟩

end Form

namespace Build

open Expr Form

variable {separator : Char} {rule : Rule} {children : List Tree} {parts : List Expr}

/-- What is read from two rows of trees is read from the two in a row. -/
theorem ascendAll_append {left right : List Tree} {parts others : List Expr}
    (front : ascendAll separator left = .ok parts) (back : ascendAll separator right = .ok others) :
    ascendAll separator (left ++ right) = .ok (parts ++ others) := by
  -- Nodes are read one after the other, wherever one row ends.
  rw [ascendAll_eq_mapM] at front back ⊢
  simp [Tree.nodes_append, List.mapM_append, front, back]

/-- A parent's account of a node: what is put together from the parts is what the rule yields. -/
def Assembles (separator : Char) (rule : Rule) (children : List Tree) (parts : List Expr) : Prop :=
  ∃ expr, assemble separator rule children parts = .ok expr ∧ rule.Yields expr

/-! Leaves, chains and signs, which have tokens that are read. -/

/-- A leaf with a valid text is read. -/
theorem assembles_leaf (lexical : rule.isLexical = true)
    (derived : Derives separator (lexeme separator rule) children) :
    Assembles separator rule children parts := by
  cases derived with
  | @token _ text readable =>
    -- A leaf looks at its token, whatever the parts are.
    have read : assemble separator rule [.terminal text] parts = leaf separator rule text := by
      simp [assemble, lexical, rule.not_collects_of_isLexical lexical, readLeaf, onlyToken]
    rw [Assembles, read]
    -- Names and types come to symbols, and all other leaves to constants.
    by_cases symbol : rule = .symbol
    · subst symbol
      obtain ⟨name, found⟩ := exists_symbolLeaf readable
      exact ⟨_, found, .of_clear (clear_symbol name) ⟨name, rfl⟩⟩
    by_cases type : rule = .type
    · subst type
      obtain ⟨type, found⟩ := exists_typeLeaf readable
      exact ⟨_, found, .of_clear (clear_symbol _) ⟨type, rfl⟩⟩
    obtain ⟨token, value, found⟩ := exists_constantLeaf readable symbol type
    have clear : (Expr.literal token value).Clear := ⟨trivial, by simp [operation?]⟩
    refine ⟨_, found, .of_clear clear ?_⟩
    -- Of the leaves that are left, the grammar says no more than that.
    cases rule <;>
      first | exact True.intro | exact absurd rfl symbol | exact absurd rfl type | cases lexical

/-- Behind an operand, the grammar allows operators that are read, each with an operand. -/
theorem exists_links {trees : List Tree} (derived : Derives separator (many (link rule)) trees) :
    ∃ (links : List (String × Tree)) (operations : List Operation), trees = linked links ∧
      List.Forall₂ (fun link operation => chainOperation rule link.1 = .ok operation)
        links operations ∧ ∀ link ∈ links, link.2.isNode = true := by
  -- The induction is on the derivation, so its form has to be a variable.
  generalize same : many (link rule) = form at derived
  induction derived with
  -- Nothing stands behind the operand.
  | none => exact ⟨[], [], rfl, .nil, by simp⟩
  | more front back _ ih =>
    cases same
    obtain ⟨links, operations, rfl, operators, nodes⟩ := ih rfl
    -- A link is a token that spells an operator, one node, and nothing else.
    cases front with
    | both sign behind =>
    cases sign with
    | @token _ text operator =>
    cases behind with
    | both operand last =>
    cases operand with
    | @node _ inner below _ _ =>
    cases last
    obtain ⟨operation, read⟩ := exists_chainOperation operator
    refine ⟨(text, .node inner below) :: links, operation :: operations, rfl,
      .cons read operators, ?_⟩
    rw [List.forall_mem_cons]
    exact ⟨rfl, nodes⟩
  -- Forms of any other kind are not those of links.
  | _ => cases same

/-- A chain of the grammar is told apart. -/
theorem exists_chain (derived : Derives separator (joined rule) children) :
    ∃ operands operations, chain rule children = .ok (operands, operations) := by
  -- A chain starts with a node, and all others come from links.
  cases derived with
  | both first behind =>
  cases first with
  | node =>
  cases behind with
  | both links last =>
  cases last
  obtain ⟨links, operations, rfl, operators, nodes⟩ := exists_links links
  exact ⟨_, operations, by simpa using chain_linked rfl operators nodes⟩

/-- A rule for chains does not allow pairs and definitions. -/
theorem ne_of_allows {operation : Operation} (allowed : allows rule operation = true) :
    operation ≠ .pair ∧ operation ≠ .define := by
  -- Each rule lists its operators, and these two are in none of the lists.
  constructor <;>
    · rintro rfl
      cases rule <;> cases allowed

/-- A chain of the grammar is put together. -/
theorem assembles_chain (isChain : rule.isChain = true)
    (derived : Derives separator (joined rule) children)
    (read : ascendAll separator children = .ok parts) (means : (joined rule).Means parts) :
    Assembles separator rule children parts := by
  -- The chain is told apart first, which gives its operations.
  obtain ⟨operands, operations, accepted⟩ := exists_chain derived
  obtain ⟨lengths, allowed⟩ := chain_eq_ok accepted
  have clear := clear_of_means rfl means
  -- The parts are read from the operands, so that there is one more of them than of operations.
  have count : parts.length = operations.length + 1 := by
    rw [ascendAll_length read, ← chain_operands accepted, lengths]
  -- What is joined by any of its operators is clear if both operands are.
  have step : ∀ operation ∈ operations, ∀ left right, left.Clear → right.Clear →
      (Expr.plain operation [left, right]).Clear := by
    intro operation member left right first second
    obtain ⟨pair, define⟩ := ne_of_allows (allowed operation member)
    exact clear_node pair define (by simp [first, second])
  have joins := assemble_of_chain isChain accepted separator parts
  cases parts with
  | nil => simp at count
  | cons first others =>
    rw [List.forall_mem_cons] at clear
    -- The grammar promises nothing about the expression of a chain.
    have describes (expr : Expr) : rule.Describes expr := by
      cases rule <;> first | exact True.intro | cases isChain
    simp only [Assembles, joins, joinChain, count]
    by_cases power : rule = .power
    · -- Powers nest to the right.
      have nested := nestRight_induct step clear.1 clear.2
      exact ⟨_, by simp [power], .of_clear nested (describes _)⟩
    · -- All other chains nest to the left.
      have nested := nestLeft_induct step clear.1 clear.2
      exact ⟨_, by simp [power], .of_clear nested (describes _)⟩

/-- In front of an operand the grammar allows no sign but that of its rule. -/
theorem sign_of_derived {keyword : String} {operation : Operation}
    (signs : signOf? rule = some (keyword, operation))
    (derived : Derives separator (row [maybe (word keyword), operand]) children) :
    sign rule children = .ok none ∨ sign rule children = .ok (some operation) := by
  -- The operand is a node, so that the sign is the only token there may be.
  cases derived with
  | both front behind =>
  cases behind with
  | both operand last =>
  cases operand with
  | @node _ inner below _ _ =>
  cases last
  -- Either there is no token, or there is the one that spells the sign.
  cases front with
  | left none =>
    cases none
    left
    simp [sign, signs, Tree.tokens, List.filterMap_cons, Tree.text?]
  | right sign =>
    cases sign with
    | @token _ text spelled =>
    have same : Text.sameWord (Text.trim text) keyword = true := spelled
    right
    simp [sign, signs, Tree.tokens, List.filterMap_cons, Tree.text?, same]

/-- An operand of the grammar is put together with its sign, if it has one. -/
theorem assembles_signed {keyword : String} {operation : Operation}
    (signs : signOf? rule = some (keyword, operation))
    (derived : Derives separator (row [maybe (word keyword), operand]) children)
    (means : (row [maybe (word keyword), operand]).Means parts) :
    Assembles separator rule children parts := by
  obtain ⟨front, _, rfl, unread, _, _, rfl, operand, rfl⟩ := means
  -- There are only tokens in front of the operand.
  have nothing : front = [] := unread.elim id id
  subst nothing
  obtain ⟨expr, rfl, clear⟩ := means_operand operand
  -- There are just two rules with a sign.
  have known : rule = .denial ∧ operation = .negation ∨ rule = .signed ∧ operation = .negate := by
    cases rule <;> simp_all [signOf?]
  -- With either sign, a clear operand gives a clear expression.
  have negated : (Expr.plain operation [expr]).Clear := by
    rcases known with ⟨-, rfl⟩ | ⟨-, rfl⟩ <;> exact clear_node nofun nofun (by simp [clear])
  -- Whatever sign has been read is put in front of the operand.
  have assembled (found : Option Operation) (read : sign rule children = .ok found) :
      assemble separator rule children [expr] = .ok (applySign found expr) := by
    rcases known with ⟨rfl, -⟩ | ⟨rfl, -⟩ <;>
      simp [assemble, Rule.collects, Rule.isLexical, Rule.isChain, assembleFixed, read, one]
  have describes (expr : Expr) : rule.Describes expr := by
    rcases known with ⟨rfl, -⟩ | ⟨rfl, -⟩ <;> trivial
  -- The operand is there in any case, with the sign or without it.
  rcases sign_of_derived signs derived with read | read
  · exact ⟨expr, assembled none read, .of_clear clear (describes _)⟩
  · exact ⟨_, assembled (some operation) read, .of_clear negated (describes _)⟩

/-! Nodes with a fixed number of parts. -/

/-- A node that is passed through is put together by handing its one part on. -/
theorem assembles_one {expr : Expr} (passes : rule.passesThrough = true) (yields : rule.Yields expr) :
    Assembles separator rule children [expr] := by
  -- None of these rules looks at anything but the one part.
  cases rule <;> first | exact ⟨expr, rfl, yields⟩ | cases passes

/-- A binding of the grammar binds a name. -/
theorem assembles_binding (means : (ofRule separator .binding).Means parts) :
    Assembles separator .binding children parts := by
  -- The name stands first, then a token, and then the value.
  obtain ⟨_, _, rfl, target, _, _, rfl, rfl, _, _, rfl, value, rfl⟩ := means
  obtain ⟨_, rfl, ⟨name, rfl⟩, -⟩ := means_only target
  obtain ⟨expr, rfl, clear⟩ := means_operand value
  -- Both parts are clear, and a binding is no pair.
  have parts : ∀ child ∈ [.symbol name, expr], child.Clear := by simp [clear_symbol, clear]
  exact ⟨_, rfl, .of_clear (clear_node nofun nofun parts) trivial⟩

/-- A loop of the grammar repeats a block. -/
theorem assembles_loop (means : (ofRule separator .loop).Means parts) :
    Assembles separator .loop children parts := by
  -- Behind its keyword, a loop has a condition and a block.
  obtain ⟨_, _, rfl, rfl, _, _, rfl, test, _, _, rfl, body, rfl⟩ := means
  obtain ⟨condition, rfl, clear⟩ := means_operand test
  obtain ⟨block, rfl, yields⟩ := means_only body
  -- The block comes to a sequence, which is what the builder asks for.
  obtain ⟨items, rfl⟩ := yields.describes
  have parts : ∀ child ∈ [condition, .plain .sequence items], child.Clear := by
    simp [clear, yields.clear]
  exact ⟨_, rfl, .of_clear (clear_node nofun nofun parts) trivial⟩

/-- A parameter of the grammar is a name with the name of a type. -/
theorem assembles_parameter (means : (ofRule separator .parameter).Means parts) :
    Assembles separator .parameter children parts := by
  -- The name stands first, then a token, and then the type.
  obtain ⟨_, _, rfl, front, _, _, rfl, rfl, _, _, rfl, back, rfl⟩ := means
  obtain ⟨_, rfl, ⟨name, rfl⟩, -⟩ := means_only front
  obtain ⟨_, rfl, ⟨type, rfl⟩, -⟩ := means_only back
  -- This is a pair, and here a pair is what it has to be.
  refine ⟨_, rfl, ⟨⟨(name, type), rfl⟩, ?_, fun other => absurd rfl other⟩⟩
  exact tidy_pair (clear_symbol name) (clear_symbol _)

/-- A block of the grammar is its sequence. -/
theorem assembles_block (means : (ofRule separator .block).Means parts) :
    Assembles separator .block children parts := by
  -- Its braces are tokens, so that the sequence is the only part.
  obtain ⟨_, _, rfl, rfl, _, _, rfl, inner, _, _, rfl, rfl, rfl⟩ := means
  obtain ⟨_, rfl, yields⟩ := means_only inner
  obtain ⟨items, rfl⟩ := yields.describes
  exact ⟨_, rfl, .of_clear (yields.clear nofun) ⟨items, rfl⟩⟩

/-! Nodes with any number of parts. -/

/-- Parameters, a return type and a block are the children of a definition. -/
theorem defining_of_means (means : signature.Means parts) :
    ∃ params result items, parts = defining params result items ∧
      (Expr.plain .sequence items).Clear := by
  -- Of the six places in the row, three hold nothing but tokens.
  obtain ⟨_, _, rfl, rfl, params, _, rfl, listed, _, _, rfl, rfl, result, _, rfl, named,
    _, _, rfl, body, rfl⟩ := means
  obtain ⟨_, rfl, yields⟩ := means_only body
  obtain ⟨items, rfl⟩ := yields.describes
  -- Every parameter comes from a node of its own, and so they come from a list of names and types.
  have each : ∀ param ∈ params, param ∈ Set.range typed := by
    obtain ⟨rows, rfl, each⟩ := listed
    intro param member
    obtain ⟨row, inside, member⟩ := List.mem_flatten.mp member
    obtain ⟨_, rfl, ⟨param, rfl⟩, -⟩ := means_only (each row inside)
    exact ⟨param, (List.mem_singleton.mp member).symm⟩
  obtain ⟨params, rfl⟩ : params ∈ Set.range (List.map typed) := by
    rw [Set.range_list_map]
    exact each
  -- There may be no return type, and there is no more than one.
  obtain ⟨result, rfl⟩ : ∃ type : Option ValueType,
      result = (type.map fun type => .symbol ⟨type.name⟩).toList := by
    rcases named with rfl | ⟨_, _, rfl, rfl, _, _, rfl, back, rfl⟩
    · exact ⟨none, rfl⟩
    · obtain ⟨_, rfl, ⟨type, rfl⟩, -⟩ := means_only back
      exact ⟨some type, rfl⟩
  exact ⟨params, result, items, by simp [defining], yields.clear nofun⟩

/-- What has the children of a definition is put together to one. -/
theorem define_defining (rule : Rule) (name : Option Name) (params : List (Name × ValueType))
    (result : Option ValueType) (items : List Expr) :
    define rule name (defining params result items) =
      .ok (.node .define name (defining params result items)) := by
  -- Put together from these parts, a definition is in shape.
  rw [define, definition_defining]

/-- A definition of the grammar is put together, be it without a name. -/
theorem assembles_anonymous (means : (ofRule separator .anonymousDefinition).Means parts) :
    Assembles separator .anonymousDefinition children parts := by
  -- Behind the keyword there is nothing but the signature.
  obtain ⟨_, _, rfl, rfl, _, _, rfl, header, rfl⟩ := means
  obtain ⟨params, result, items, rfl, body⟩ := defining_of_means header
  have assembled := define_defining .anonymousDefinition none params result items
  refine ⟨_, ?_, .of_clear (clear_define none params result body) ⟨_, rfl⟩⟩
  rw [List.append_nil]
  exact assembled

/-- A definition of the grammar is put together with its name in front. -/
theorem assembles_named (means : (ofRule separator .namedDefinition).Means parts) :
    Assembles separator .namedDefinition children parts := by
  -- In front of the signature stands the name.
  obtain ⟨_, _, rfl, front, _, _, rfl, header, rfl⟩ := means
  obtain ⟨_, rfl, ⟨name, rfl⟩, -⟩ := means_only front
  obtain ⟨params, result, items, rfl, body⟩ := defining_of_means header
  have assembled := define_defining .namedDefinition (some name) params result items
  refine ⟨_, ?_, .of_clear (clear_define (some name) params result body) trivial⟩
  rw [List.append_nil]
  exact assembled

/-- Arms of the grammar are paired up. -/
theorem pairUp?_of_means {rows : List (List Expr)} (each : ∀ row ∈ rows, arm.Means row) :
    ∃ arms, pairUp? rows.flatten = some arms ∧ ∀ arm ∈ arms, arm.AllNodes Tidy := by
  induction rows with
  -- The arms are paired up one by one, the first one in front.
  | nil => exact ⟨[], rfl, by simp⟩
  | cons row rows ih =>
    rw [List.forall_mem_cons] at each
    obtain ⟨arms, paired, tidy⟩ := ih each.2
    -- An arm gives two parts, and the arrow between them none.
    obtain ⟨_, _, rfl, test, _, _, rfl, rfl, _, _, rfl, outcome, rfl⟩ := each.1
    obtain ⟨antecedent, rfl, first⟩ := means_operand test
    have clear := clear_of_means (by decide) outcome
    obtain ⟨_, -, consequent, rfl, -⟩ := outcome
    have second := clear consequent List.mem_cons_self
    refine ⟨.plain .pair [antecedent, consequent] :: arms, by simp [pairUp?, paired], ?_⟩
    exact List.forall_mem_cons.mpr ⟨tidy_pair first second, tidy⟩

/-- A selection of the grammar is put together from its arms. -/
theorem assembles_selection (means : (ofRule separator .selection).Means parts) :
    Assembles separator .selection children parts := by
  -- Behind the keyword there is one arm at least.
  obtain ⟨_, _, rfl, rfl, first, _, rfl, head, _, _, rfl, ⟨rows, rfl, each⟩, rfl⟩ := means
  obtain ⟨arms, paired, tidy⟩ := pairUp?_of_means (List.forall_mem_cons.mpr ⟨head, each⟩)
  have assembled : assemble separator .selection children (first ++ rows.flatten) =
      .ok (.plain .select arms) := by
    rw [List.flatten_cons] at paired
    simp [assemble, Rule.collects, assembleAny, select, paired]
  -- In a selection there may be pairs.
  have clear : (Expr.plain .select arms).Clear :=
    ⟨⟨⟨fun other => absurd rfl other, by simp⟩, (allNodesIn_iff arms).mpr tidy⟩,
      by simp [operation?, Expr.plain]⟩
  exact ⟨_, by simpa using assembled, .of_clear clear trivial⟩

/-- A call of the grammar is put together from its function and its arguments. -/
theorem assembles_call (means : (ofRule separator .call).Means parts) :
    Assembles separator .call children parts := by
  -- The parentheses are tokens, so that the function and the arguments are all parts.
  obtain ⟨_, _, rfl, front, _, _, rfl, rfl, arguments, _, rfl, listed, _, _, rfl, rfl, rfl⟩ := means
  have clear := clear_of_means (by decide) front
  have others := clear_of_means (by decide) listed
  obtain ⟨rule, known, function, rfl, yields⟩ := front
  rw [List.forall_mem_singleton] at clear
  -- The function is given by name or by definition.
  have sort : (∃ name, function = .symbol name) ∨ ∃ parts, function = .plain .define parts := by
    simp only [List.mem_cons, List.not_mem_nil, or_false] at known
    rcases known with rfl | rfl | rfl
    · exact yields.describes
    · exact .inl yields.describes
    · exact .inr yields.describes
  rcases sort with ⟨name, rfl⟩ | ⟨parts, rfl⟩
  · -- A name is taken over by the call.
    have clear : (Expr.node .call (some name) arguments).Clear := clear_node nofun nofun others
    exact ⟨_, by simp [assemble, Rule.collects, assembleAny, call], .of_clear clear trivial⟩
  · -- A definition stays a part of the call.
    have clear : (Expr.plain .call (.plain .define parts :: arguments)).Clear :=
      clear_node nofun nofun (List.forall_mem_cons.mpr ⟨clear, others⟩)
    exact ⟨_, by simp [assemble, Rule.collects, assembleAny, call]; rfl, .of_clear clear trivial⟩

/-- Whatever the rule, what the grammar allows below a node is put together. -/
theorem assembles (rule : Rule) (derived : Derives separator (ofRule separator rule) children)
    (read : ascendAll separator children = .ok parts)
    (means : (ofRule separator rule).Means parts) : Assembles separator rule children parts := by
  cases rule
  case binding => exact assembles_binding means
  case loop => exact assembles_loop means
  case parameter => exact assembles_parameter means
  case block => exact assembles_block means
  case namedDefinition => exact assembles_named means
  case anonymousDefinition => exact assembles_anonymous means
  case selection => exact assembles_selection means
  case call => exact assembles_call means
  case denial => exact assembles_signed rfl derived means
  case signed => exact assembles_signed rfl derived means
  case disjunction | conjunction | relation | sum | product | power =>
    exact assembles_chain rfl derived read means
  case integer | real | boolean | string | symbol | type => exact assembles_leaf rfl derived
  case sequence =>
    -- A sequence takes any clear parts.
    have clear : (Expr.plain .sequence parts).Clear :=
      clear_node nofun nofun (clear_of_means rfl means)
    exact ⟨_, rfl, .of_clear clear ⟨parts, rfl⟩⟩
  case list =>
    -- So does a list.
    have clear : (Expr.plain .list parts).Clear :=
      clear_node nofun nofun (clear_of_means rfl means)
    exact ⟨_, rfl, .of_clear clear trivial⟩
  case expression =>
    -- An expression hands its operand on.
    obtain ⟨expr, rfl, clear⟩ := means_operand means
    exact assembles_one rfl (.of_clear clear trivial)
  case consequent =>
    -- A consequent is a block or an operand, and hands on either.
    have clear := clear_of_means rfl means
    obtain ⟨_, -, expr, rfl, -⟩ := means
    exact assembles_one rfl (.of_clear (clear expr List.mem_cons_self) trivial)
  case factor =>
    -- Parentheses hold nothing but tokens around the one part.
    rcases means with ⟨_, _, rfl, rfl, _, _, rfl, inner, _, _, rfl, rfl, rfl⟩ | inner
    · obtain ⟨expr, rfl, clear⟩ := means_operand inner
      exact assembles_one rfl (.of_clear clear trivial)
    · obtain ⟨expr, rfl, clear⟩ := means_operand inner
      exact assembles_one rfl (.of_clear clear trivial)
  case callee =>
    -- A callee is a name or a definition, and stays what it is.
    have clear := clear_of_means rfl means
    obtain ⟨rule, known, expr, rfl, yields⟩ := means
    have describes : Rule.callee.Describes expr := by
      simp only [List.mem_cons, List.not_mem_nil, or_false] at known
      rcases known with rfl | rfl
      · exact .inl yields.describes
      · exact .inr yields.describes
    exact assembles_one rfl (.of_clear (clear expr List.mem_cons_self) describes)

/-- What the grammar allows is read, and it means what its form stands for. -/
theorem exists_ascendAll {form : Form} {trees : List Tree} (derived : Derives separator form trees) :
    ∃ parts, ascendAll separator trees = .ok parts ∧ form.Means parts := by
  induction derived with
  -- A token gives no part.
  | token => exact ⟨[], rfl, rfl⟩
  | @node rules rule children listed inside ih =>
    -- What is below the node has been read, so that the node can be put together.
    obtain ⟨parts, read, means⟩ := ih
    obtain ⟨expr, built, yields⟩ := assembles rule inside read means
    refine ⟨[expr], ?_, rule, listed, expr, rfl, yields⟩
    simp [ascendAll, ascend, read, built]
  | nothing => exact ⟨[], rfl, rfl⟩
  | both front back ih ih' =>
    -- The two rows are read one after the other.
    obtain ⟨left, first, means⟩ := ih
    obtain ⟨right, second, means'⟩ := ih'
    exact ⟨left ++ right, ascendAll_append first second, left, right, rfl, means, means'⟩
  | left derived ih =>
    -- Whichever form it is, its trees are read alike.
    obtain ⟨parts, read, means⟩ := ih
    exact ⟨parts, read, .inl means⟩
  | right derived ih =>
    obtain ⟨parts, read, means⟩ := ih
    exact ⟨parts, read, .inr means⟩
  | none => exact ⟨[], rfl, [], rfl, by simp⟩
  | more front back ih ih' =>
    -- One repetition is read in front of all others.
    obtain ⟨row, first, means⟩ := ih
    obtain ⟨_, second, rows, rfl, each⟩ := ih'
    exact ⟨row ++ rows.flatten, ascendAll_append first second, row :: rows, by simp,
      List.forall_mem_cons.mpr ⟨means, each⟩⟩

end Build

namespace Builder

open Build Expr Form

/--
Both builders accept the whole grammar, with levels left out or not.

They build the same expression. Pairs stand in it only as arms of selections and as parameters of
definitions, and what a definition says of types are their canonical names.
-/
theorem build_grammatical (separator : Char) (tree : Tree)
    (grammatical : tree.Grammatical separator) :
    ∃ expr, (∀ builder : Builder, builder.build separator tree = .ok expr) ∧
      expr.AllNodes Tidy ∧
      (tree.rule? ≠ some .parameter → expr.operation? ≠ some .pair) := by
  cases tree with
  -- The grammar allows no token by itself.
  | terminal text => exact grammatical.elim
  | node rule children =>
    -- What is below the root is read first, and then the root is put together.
    obtain ⟨parts, read, means⟩ := exists_ascendAll grammatical
    obtain ⟨expr, built, yields⟩ := assembles rule grammatical read means
    -- This is what an ascent does, and both builders build what an ascent builds.
    have ascends : ascend separator (.node rule children) = .ok expr := by
      simp [ascend, read, built]
    exact ⟨expr, build_of_ascend ascends, yields.tidy,
      fun other => yields.free fun same => other (congrArg some same)⟩

/-- A function that adds to its parameter, and a selection in which it is called. -/
def mixedTree : Tree :=
  .node .sequence [
    .node .namedDefinition [.node .symbol [.terminal "f"], .terminal "(",
      .node .parameter [.node .symbol [.terminal "x"], .terminal ":", .node .type [.terminal "Real"]],
      .terminal ")", .terminal ":", .node .type [.terminal "ℝ"],
      .node .block [.terminal "\x7b",
        .node .sequence [.node .sum [.node .symbol [.terminal "x"], .terminal "+",
          .node .real [.terminal "1.5e3"]]],
        .terminal "\x7d"]],
    .node .selection [.terminal "SELECT", .node .boolean [.terminal "#t"], .terminal "->",
      .node .call [.node .symbol [.terminal "F"], .terminal "(", .node .integer [.terminal "-2"],
        .terminal ")"]]]

/-- The function with its selection is accepted. -/
theorem build_grammatical_mixedTree :
    mixedTree.Grammatical '.' ∧
      ∃ expr, (∀ builder : Builder, builder.build '.' mixedTree = .ok expr) ∧
        expr.AllNodes Tidy ∧
        (mixedTree.rule? ≠ some .parameter → expr.operation? ≠ some .pair) := by
  have grammatical : mixedTree.Grammatical '.' := by
    -- Each of the leaves stands for one token with a text of its kind.
    have name (text : String) (c : Char) (member : c ∈ text.toList)
        (visible : Text.isBlank c = false) {rules : List Rule} (listed : .symbol ∈ rules) :
        Derives '.' (.node rules) [.node .symbol [.terminal text]] :=
      .node listed (.token ⟨c, member, visible⟩)
    have token (spelling text : String) (same : Text.Spelled spelling text) :
        Derives '.' (word spelling) [.terminal text] := .token same
    have param : Derives '.' (ofRule '.' .parameter)
        [.node .symbol [.terminal "x"], .terminal ":", .node .type [.terminal "Real"]] :=
      .cons (name "x" 'x' (by decide) (by decide) (by decide)) (.cons (token ":" ":" (by decide))
        (.cons (.node (by decide) (.token (.inr ⟨.real, by decide⟩))) .nothing))
    have real : Readable '.' .real "1.5e3" := by
      have numeral : Decimal.IsNumeral (['1'] ++ '.' :: ['5'] ++ 'E' :: ['3']) :=
        .unsigned (.pointed (by decide)) (.plain (by decide))
      exact ⟨"1.5e3".toList, .inr (by decide), fun _ => rfl, numeral⟩
    -- The parts of the function, from the inside outwards.
    have sum : Derives '.' (ofRule '.' .sum) [.node .symbol [.terminal "x"], .terminal "+",
        .node .real [.terminal "1.5e3"]] :=
      .cons (name "x" 'x' (by decide) (by decide) (by decide)) (.both (.more
        (.cons (.token (by decide)) (.cons (.node (by decide) (.token real)) .nothing)) .none)
        .nothing)
    have body : Derives '.' (.node [.block]) [.node .block [.terminal "\x7b", .node .sequence
        [.node .sum [.node .symbol [.terminal "x"], .terminal "+", .node .real [.terminal "1.5e3"]]],
        .terminal "\x7d"]] :=
      .node (by decide) (.cons (token "\x7b" "\x7b" (by decide)) (.cons
        (.node (by decide) (.next (.node (by decide) sum) .none))
        (.cons (token "\x7d" "\x7d" (by decide)) .nothing)))
    have result : Derives '.' (row [word ":", .node [.type]])
        [.terminal ":", .node .type [.terminal "ℝ"]] :=
      .cons (token ":" ":" (by decide))
        (.cons (.node (by decide) (.token (.inl (by decide)))) .nothing)
    have named : Derives '.' (ofRule '.' .namedDefinition) _ :=
      .cons (name "f" 'f' (by decide) (by decide) (by decide)) (.both (.cons
        (token "(" "(" (by decide)) (.both (.next (.node (by decide) param) .none) (.cons
          (token ")" ")" (by decide)) (.both (.right result) (.cons body .nothing))))) .nothing)
    -- The parts of the selection.
    have argument : Derives '.' operand [.node .integer [.terminal "-2"]] :=
      .node (by decide) (.token ⟨-2, .minus (by decide), by decide, by decide⟩)
    have call : Derives '.' (ofRule '.' .call) _ :=
      .cons (name "F" 'F' (by decide) (by decide) (by decide)) (.cons (token "(" "(" (by decide))
        (.both (.next argument .none) (.cons (token ")" ")" (by decide)) .nothing)))
    have truth : Readable '.' .boolean "#t" := by
      have known : Text.uppercase (Text.trim "#t") ∈ ["TRUE", "#T", "FALSE", "#F"] := by decide
      exact known
    have antecedent : Derives '.' operand [.node .boolean [.terminal "#t"]] :=
      .node (by decide) (.token truth)
    have arm : Derives '.' Form.arm _ :=
      .cons antecedent (.cons (token "->" "->" (by decide))
        (.cons (.node (by decide) call) .nothing))
    have selection : Derives '.' (ofRule '.' .selection) _ :=
      .cons (token "select" "SELECT" (by decide)) (.both arm (.both .none .nothing))
    -- Both of them may stand in a sequence.
    exact .next (.node (by decide) named) (.next (.node (by decide) selection) .none)
  exact ⟨grammatical, build_grammatical '.' mixedTree grammatical⟩

end Builder

end Scriptlet

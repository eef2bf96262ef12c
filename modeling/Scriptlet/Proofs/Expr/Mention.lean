import Scriptlet.Proofs.Expr.Shape

/-! The names that stand in an expression, and what does not hang on others. -/

namespace Scriptlet.Expr

/-- The name on a node that evaluation looks up or binds: that of a call or of a definition. -/
def token? (operation : Operation) (name : Option Name) : Option Name :=
  if operation == .call || operation == .define then name else none

mutual

/-- All names in an expression: its leaves, and the names of calls and definitions. -/
def mentions : Expr → List Name
  | literal .. => []
  | symbol name => [name]
  | node operation name children => (token? operation name).toList ++ allMentions children

/-- All names in some expressions. -/
def allMentions : List Expr → List Name
  | [] => []
  | expr :: rest => expr.mentions ++ allMentions rest

end

/-- Whether an expression mentions no hidden name. -/
def Silent (hidden : Name → Prop) (expr : Expr) : Prop :=
  ∀ name ∈ expr.mentions, ¬hidden name

variable {hidden : Name → Prop} {operation : Operation} {token : Option Name}
  {children : List Expr}

/-- What one of some expressions mentions, they mention together. -/
theorem mem_allMentions {exprs : List Expr} {expr : Expr} {name : Name} (member : expr ∈ exprs)
    (mentioned : name ∈ expr.mentions) : name ∈ allMentions exprs := by
  -- The expression is the first one or one of the others.
  induction exprs with
  | nil => cases member
  | cons first rest ih =>
    rw [allMentions, List.mem_append]
    rcases List.mem_cons.mp member with rfl | member
    · exact .inl mentioned
    · exact .inr (ih member)

/-- A part of an expression mentions no more than the whole. -/
theorem Silent.part (silent : (node operation token children).Silent hidden) {child : Expr}
    (member : child ∈ children) : child.Silent hidden := by
  -- What the part mentions stands behind the token of the whole.
  intro name mentioned
  refine silent name ?_
  rw [mentions, List.mem_append]
  exact .inr (mem_allMentions member mentioned)

/-- An expression that is a name mentions it. -/
theorem Silent.symbol_iff {name : Name} : (symbol name).Silent hidden ↔ ¬hidden name := by
  simp [Silent, mentions]

/-- A call or a definition mentions its name; the names of other nodes are never looked at. -/
theorem Silent.of_token {name : Name}
    (silent : (node operation (some name) children).Silent hidden)
    (named : operation = .call ∨ operation = .define) : ¬hidden name := by
  -- The token counts for these two operations.
  refine silent name ?_
  rcases named with rfl | rfl <;> simp [mentions, token?]

/-- The body of a definition mentions no more than the definition. -/
theorem Silent.body {parts : Definition} (silent : (node .define token children).Silent hidden)
    (shaped : definition .define children = .ok parts) : parts.body.Silent hidden :=
  silent.part (List.mem_of_getLast? (definition_eq_ok shaped).1)

end Scriptlet.Expr

import Scriptlet.Proofs.Build.Shape
import Scriptlet.Proofs.Expr.Tidy
import Scriptlet.Proofs.Interpreter.Laziness
import Scriptlet.Proofs.Machine.Isolation
import Scriptlet.Proofs.Machine.Resolution
import Scriptlet.Proofs.ValueType

/-!
The types that a definition declares.

Main statement: a function has the types that are spelled in its definition, whatever their
spelling, unless one of them is given by the sign of functions: as a name that sign is put into
capitals, where no type is found for it. In a tree it is read as a type at once, and is well
understood.
-/

namespace Scriptlet

/-! Types as they are spelled. -/

/-- A definition in which types are given by texts. -/
structure Declaration where
  /-- The name of the function, if it has one. -/
  name : Option Name
  /-- The parameters, each with the text for its type. -/
  params : List (Name × String)
  /-- The text for the type of the results, if there is one. -/
  result : Option String
  /-- The body. -/
  body : Expr
  /-- The body is a sequence. -/
  sequence : body.operation? = some .sequence
  /-- The body passes the check of shapes. -/
  valid : body.validate = .ok ()

namespace Declaration

variable (declaration : Declaration)

/-- The texts for types. -/
def spellings : List String :=
  declaration.params.map Prod.snd ++ declaration.result.toList

/-- The parts of a definition in which each type is given by the name that its text spells. -/
def parts : Definition :=
  ⟨declaration.params.map fun param => (param.1, .ofText param.2),
    declaration.result.map .ofText, declaration.body⟩

/-- Such a definition. -/
def expr : Expr :=
  .node .define declaration.name
    (Expr.declaring declaration.parts.params declaration.parts.returnType declaration.body)

/-- Whether the texts are the spellings of types. -/
structure Declares (params : List (Name × ValueType)) (result : Option ValueType) : Prop where
  /-- Each parameter has the type that its text spells. -/
  params : declaration.params.map (Prod.map id ValueType.ofName?) = params.map (Prod.map id some)
  /-- The results have the type that their text spells, if they have one. -/
  result : declaration.result.map ValueType.ofName? = result.map some

variable {declaration} {params : List (Name × ValueType)} {result : Option ValueType}

/-- The types of such a definition are the names of the texts that spell them. -/
theorem types_parts : declaration.parts.types = declaration.spellings.map .ofText := by
  -- Parameter by parameter, and then the result, if there is one.
  simp [Definition.types, parts, spellings, Option.toList_map]

/-- Each of the texts spells a type. -/
theorem Declares.exists_type (declares : declaration.Declares params result) :
    ∀ text ∈ declaration.spellings, ∃ type, ValueType.ofName? text = some type := by
  -- The text belongs to a parameter, or to the results.
  intro text member
  rcases List.mem_append.mp member with member | member
  · obtain ⟨param, listed, rfl⟩ := List.mem_map.mp member
    have found : (param.1, ValueType.ofName? param.2) ∈
        declaration.params.map (Prod.map id ValueType.ofName?) := List.mem_map_of_mem listed
    rw [declares.params] at found
    obtain ⟨typed, -, same⟩ := List.mem_map.mp found
    exact ⟨typed.2, (Prod.mk.inj same).2.symm⟩
  · have spelled := declares.result
    rw [Option.mem_toList.mp member, Option.map_some] at spelled
    obtain ⟨type, -, same⟩ := Option.map_eq_some_iff.mp spelled.symm
    exact ⟨type, same.symm⟩

/-- The types that are spelled are found, as long as the sign of functions is not among them. -/
theorem Declares.resolve_eq (declares : declaration.Declares params result)
    (plain : ∀ text ∈ declaration.spellings, Text.trim text ≠ "λ") :
    declaration.parts.resolve = .ok (params, result) := by
  -- The name of a text stands for what the text stands for itself.
  have found : ∀ text ∈ declaration.spellings,
      ValueType.ofName? (Name.ofText text).text = ValueType.ofName? text := by
    intro text member
    obtain ⟨type, spelled⟩ := declares.exists_type text member
    rw [Name.ofText, ValueType.ofName?_canonical spelled, if_neg (plain text member), spelled]
  refine Definition.resolve_eq_ok_iff.mpr ⟨?_, ?_⟩
  · -- The parameters have the types that their texts spell.
    rw [← declares.params, parts, List.map_map]
    refine List.map_congr_left fun param listed => ?_
    have member : param.2 ∈ declaration.spellings :=
      List.mem_append_left _ (List.mem_map_of_mem listed)
    exact congrArg (Prod.mk param.1) (found param.2 member)
  · -- So have the results, if they have a type.
    rw [← declares.result, parts, Option.map_map]
    refine Option.map_congr fun text given => ?_
    have member : text ∈ declaration.spellings :=
      List.mem_append_right _ (Option.mem_toList.mpr given)
    rw [Function.comp_apply, found text member]

/-- With the sign of functions among them, it is such a sign that is not known. -/
theorem Declares.resolve_eq_error (declares : declaration.Declares params result) {text : String}
    (member : text ∈ declaration.spellings) (sign : Text.trim text = "λ") :
    ∃ stray ∈ declaration.spellings, Text.trim stray = "λ" ∧ declaration.parts.resolve =
      .error (.badShape ⟨.define, .unknownType (.ofText stray)⟩) := by
  -- With such a sign no types would be resolved.
  cases resolved : declaration.parts.resolve with
  | ok types =>
    have listed : Name.ofText text ∈ declaration.parts.types := by
      rw [types_parts]
      exact List.mem_map_of_mem member
    exact absurd (ValueType.ofName?_canonical_sign sign)
      (Definition.known_of_resolve resolved _ listed)
  | error error =>
    obtain ⟨type, listed, unknown, rfl⟩ := Definition.resolve_eq_error resolved
    rw [types_parts] at listed
    obtain ⟨stray, member, rfl⟩ := List.mem_map.mp listed
    -- Any other spelling would have been found.
    obtain ⟨type, spelled⟩ := declares.exists_type stray member
    rw [Name.ofText, ValueType.ofName?_canonical spelled] at unknown
    exact ⟨stray, member, by simpa using unknown, rfl⟩

end Declaration

/-- Parts of a definition by names, with a sound sequence as body, pass the check of shapes. -/
theorem Expr.validate_declaring (name : Option Name) (params : List (Name × Name))
    (result : Option Name) {body : Expr} (sequence : body.operation? = some .sequence)
    (valid : body.validate = .ok ()) :
    (node .define name (declaring params result body)).validate = .ok () := by
  -- The node itself is checked, and then each of its children.
  refine validate_node_iff.mpr ⟨checkNode_eq_ok_iff.mp ?_, fun child member => ?_⟩
  · rw [checkNode_eq_ok_iff_count, checkChildren, definition_declaring params result sequence]
    exact ⟨rfl, rfl⟩
  · -- A child is a parameter, the type of the results or the body.
    simp only [declaring, List.mem_append, List.mem_map, Option.mem_toList, List.mem_singleton,
      Option.map_eq_some_iff] at member
    rcases member with (⟨param, -, rfl⟩ | ⟨type, -, rfl⟩) | rfl
    · rfl
    · rfl
    · exact valid

/-- A definition that is given by names is resolved, and then there is a function of it. -/
theorem Interpreter.evalIn_declaring (interpreter : Interpreter) (host : Host) (frame : Nat)
    (name : Option Name) (params : List (Name × Name)) (result : Option Name) {body : Expr}
    (sequence : body.operation? = some .sequence) (valid : body.validate = .ok ()) :
    interpreter.evalIn host (.node .define name (Expr.declaring params result body)) frame =
      interpreter.perform (Evaluation.ofExcept (Definition.resolve ⟨params, result, body⟩) >>=
        Evaluation.makeClosure frame name body) := by
  -- The parts of the definition are those that it is declared with.
  have shaped := Expr.definition_declaring params result sequence
  rw [interpreter.evalIn_of_validate host
    (Expr.validate_declaring name params result sequence valid)]
  -- There are steps enough for one node.
  obtain ⟨below, deep⟩ : ∃ below, Interpreter.steps = below + 1 :=
    ⟨Interpreter.steps - 1, by decide⟩
  rw [deep, ← Evaluation.evalDefine_eq frame name shaped]
  rfl

/-- A function that is made has the types that it is given. -/
theorem Interpreter.perform_makeClosure (interpreter : Interpreter) (frame : Nat)
    (name : Option Name) (body : Expr) (params : List (Name × ValueType))
    (result : Option ValueType) :
    (interpreter.perform (Evaluation.makeClosure frame name body (params, result))).1 =
      .ok (.function
        (.closure ⟨interpreter.world.definitions, name, params, result, body, frame⟩)) := by
  -- The function is the same whether or not it is bound to a name.
  cases name <;> rfl

/-! Types in trees. -/

namespace Build

variable {separator : Char} {text : String} {type : ValueType}

/-- In a tree a type goes by its name, whatever its spelling. -/
theorem ascend_type (spelled : ValueType.ofName? text = some type) :
    ascend separator (.node .type [.terminal text]) = .ok (.symbol ⟨type.name⟩) := by
  -- The leaf is read as a type, and then there is nothing around it.
  have leaf : leaf separator .type text = .ok (.symbol ⟨type.name⟩) := by
    simp [leaf, typeLeaf, spelled, ofText_name]
  simpa [ascend, ascendAll, assemble, Rule.collects, Rule.isLexical, readLeaf, onlyToken] using leaf

/-- A parameter in a tree. -/
def parameterTree (word text : String) : Tree :=
  .node .parameter [.node .symbol [.terminal word], .terminal ":", .node .type [.terminal text]]

/-- A parameter of a tree has the type that is spelled, under its name. -/
theorem ascend_parameter {word : String} (visible : (Text.trim word).isEmpty = false)
    (spelled : ValueType.ofName? text = some type) :
    ascend separator (parameterTree word text) =
      .ok (.typed (.ofText (Text.trim word), type)) := by
  -- The name is read first, then the type, and the two are paired.
  have name : ascend separator (.node .symbol [.terminal word]) =
      .ok (.symbol (.ofText (Text.trim word))) := by
    have filled : Text.trim word ≠ "" := by simpa using visible
    simp [ascend, ascendAll, assemble, Rule.collects, Rule.isLexical, readLeaf, onlyToken, leaf,
      symbolLeaf, filled]
  have parts : ascendAll separator [.node .symbol [.terminal word], .terminal ":",
      .node .type [.terminal text]] = .ok [.symbol (.ofText (Text.trim word)),
        .symbol ⟨type.name⟩] := by
    simp only [ascendAll, name, ascend_type spelled]
    rfl
  rw [parameterTree, ascend, parts]
  rfl

end Build

/-! Definitions with the types that are spelled. -/

namespace Declaration

/-- What becomes of a definition in which types are spelled, in some frame of an interpreter. -/
structure Evaluates (declaration : Declaration) (interpreter : Interpreter) (host : Host)
    (frame : Nat) (params : List (Name × ValueType)) (result : Option ValueType) : Prop where
  /-- Unless one of them is the sign of functions, the function has the types that are spelled. -/
  defined : (∀ text ∈ declaration.spellings, Text.trim text ≠ "λ") →
    (interpreter.evalIn host declaration.expr frame).1 = .ok (.function (.closure
      ⟨interpreter.world.definitions, declaration.name, params, result, declaration.body, frame⟩))
  /-- If one of them is, there is no function, and what is told is that the sign is no type. -/
  refused : ∀ text ∈ declaration.spellings, Text.trim text = "λ" →
    ∃ stray ∈ declaration.spellings, Text.trim stray = "λ" ∧
      let error := EvalError.badShape ⟨.define, .unknownType (.ofText stray)⟩
      interpreter.evalIn host declaration.expr frame = (.error (.failed error),
        { interpreter with world := interpreter.world.note (.raised error) })
  /-- In a tree either builder understands each of them, be it the sign of functions or not. -/
  built : ∀ text ∈ declaration.spellings, ∃ type, ValueType.ofName? text = some type ∧
    ∀ (builder : Builder) (separator : Char),
      builder.build separator (.node .type [.terminal text]) = .ok (.symbol ⟨type.name⟩) ∧
      ∀ word, (Text.trim word).isEmpty = false →
        builder.build separator (Build.parameterTree word text) =
          .ok (.typed (.ofText (Text.trim word), type))
  /-- With what they have built of the types, the function has the types that are spelled. -/
  resolved : (interpreter.evalIn host (.node .define declaration.name
      (params.map .typed ++ (result.map fun type => .symbol ⟨type.name⟩).toList ++
        [declaration.body])) frame).1 = .ok (.function (.closure
      ⟨interpreter.world.definitions, declaration.name, params, result, declaration.body, frame⟩))

end Declaration

namespace Interpreter

open Evaluation

/-- A definition is evaluated by resolving its types and making its function. -/
theorem evalIn_expr (interpreter : Interpreter) (host : Host) (frame : Nat)
    (declaration : Declaration) : interpreter.evalIn host declaration.expr frame =
      interpreter.perform (ofExcept declaration.parts.resolve >>=
        makeClosure frame declaration.name declaration.body) :=
  interpreter.evalIn_declaring host frame declaration.name _ _ declaration.sequence
    declaration.valid

/--
A definition declares the types that are spelled in it, but for the sign of functions.

Types may be spelled by their names in letters of either case or by their signs, with blanks around
them. Where they stand in a definition as names, the sign of functions alone is not understood:
names are in capitals, and the capital of that sign stands for no type. Where they stand in a tree
they are all understood, and the function has all the types that are spelled.
-/
theorem evalIn_declaration (interpreter : Interpreter) (host : Host) (frame : Nat)
    (declaration : Declaration) {params : List (Name × ValueType)} {result : Option ValueType}
    (declares : declaration.Declares params result) :
    declaration.Evaluates interpreter host frame params result where
  defined plain := by
    rw [evalIn_expr, declares.resolve_eq plain]
    exact interpreter.perform_makeClosure frame declaration.name declaration.body params result
  refused text member sign := by
    obtain ⟨stray, listed, alike, failed⟩ := declares.resolve_eq_error member sign
    refine ⟨stray, listed, alike, ?_⟩
    -- The failure is written down, and nothing else has been done.
    rw [evalIn_expr, failed]
    rfl
  built text member := by
    obtain ⟨type, spelled⟩ := declares.exists_type text member
    -- What an ascent makes of a tree is what either builder makes of it.
    refine ⟨type, spelled, fun builder separator => ⟨?_, fun word visible => ?_⟩⟩
    · exact Builder.build_of_ascend (Build.ascend_type spelled) builder
    · exact Builder.build_of_ascend (Build.ascend_parameter visible spelled) builder
  resolved := by
    -- A parameter that is built gives its type by a name that is in capitals already.
    have parts : params.map .typed ++ (result.map fun type => .symbol ⟨type.name⟩).toList ++
          [declaration.body] =
        Expr.declaring (params.map fun param => (param.1, ⟨param.2.name⟩))
          (result.map fun type => ⟨type.name⟩) declaration.body := by
      rw [Expr.declaring, List.map_map, Option.map_map]
      rfl
    rw [parts, interpreter.evalIn_declaring host frame declaration.name _ _ declaration.sequence
      declaration.valid, Definition.resolve_typed]
    exact interpreter.perform_makeClosure frame declaration.name declaration.body params result

/-- A definition with types in several spellings. -/
def spelledSum : Declaration where
  name := some ⟨"F"⟩
  params := [(⟨"X"⟩, " Real "), (⟨"Y"⟩, "ℤ")]
  result := some "real"
  body := .plain .sequence [.plain .add [.symbol ⟨"X"⟩, .symbol ⟨"Y"⟩]]
  sequence := rfl
  valid := rfl

/-- Its function takes a real number and an integer, and gives a real number. -/
theorem evalIn_declaration_spelledSum :
    spelledSum.Declares [(⟨"X"⟩, .real), (⟨"Y"⟩, .integer)] (some .real) ∧
      (∀ text ∈ spelledSum.spellings, Text.trim text ≠ "λ") ∧
      ((start {} '.' []).evalIn mute spelledSum.expr root).1 = .ok (.function (.closure
        ⟨(start {} '.' []).world.definitions, some ⟨"F"⟩, [(⟨"X"⟩, .real), (⟨"Y"⟩, .integer)],
          some .real, spelledSum.body, root⟩)) := by
  have declares : spelledSum.Declares [(⟨"X"⟩, .real), (⟨"Y"⟩, .integer)] (some .real) :=
    -- Blanks are trimmed, letters are of either case, and signs are taken as they are.
    ⟨by decide, by decide⟩
  have plain : ∀ text ∈ spelledSum.spellings, Text.trim text ≠ "λ" := by decide
  exact ⟨declares, plain,
    (evalIn_declaration (start {} '.' []) mute root spelledSum declares).defined plain⟩

/-- The sign of functions spells their type, but as a name in a definition it is not understood. -/
theorem evalIn_functionSign :
    ValueType.ofName? "λ" = some .function ∧
      ((start { intrinsics := false } '.' []).evalIn mute
        (.node .define none (Expr.declaring [(⟨"X"⟩, .ofText "λ")] none
          (.plain .sequence [.literal "1" (.integer 1)]))) root).1 =
        .error (.failed (.badShape ⟨.define, .unknownType ⟨"Λ"⟩⟩)) := by
  exact ⟨by decide, rfl⟩

end Interpreter

end Scriptlet

import Scriptlet.Proofs.Heap.Growth
import Scriptlet.Proofs.Machine.Eval
import Scriptlet.Proofs.Machine.Triple
import Scriptlet.Proofs.Value.Holding

/-!
What has come about: frames and functions that later parts of an evaluation may rest on.

Nothing that has come about goes away again. Main statement: if every single thing that evaluation
does keeps what holds of the world, and yields only functions that have come about, then evaluation
does so as a whole, even if it fails.
-/

namespace Scriptlet

open Evaluation Value

/-- Whether a world has no frames and no functions that a later one has not. -/
structure World.Before (world later : World) : Prop where
  /-- There may be new frames. -/
  next_le : world.heap.next ≤ later.heap.next
  /-- There may be new functions. -/
  definitions_le : world.definitions ≤ later.definitions

namespace World.Before

variable {world later latest : World}

/-- Every world is no further than itself. -/
theorem refl (world : World) : world.Before world :=
  ⟨Nat.le_refl _, Nat.le_refl _⟩

/-- What stays over two stretches stays over both together. -/
theorem trans (first : world.Before later) (second : later.Before latest) : world.Before latest :=
  ⟨Nat.le_trans first.next_le second.next_le,
    Nat.le_trans first.definitions_le second.definitions_le⟩

/-- Binding a name opens no frame and defines no function. -/
theorem bind (world : World) (frame : Nat) (name : Name) (value : Value) :
    world.Before (world.bind frame name value) :=
  ⟨by simp, by simp⟩

/-- Entering a call opens no frame yet. -/
theorem enter (world : World) (function : Function) (arguments : List Value) :
    world.Before (world.enter function arguments) :=
  ⟨Nat.le_refl _, Nat.le_refl _⟩

/-- A new frame takes the next number, so older frames are still there. -/
theorem extend (world : World) (parent : Nat) :
    world.Before { world with heap := world.heap.extend parent } :=
  ⟨by simp, Nat.le_refl _⟩

/-- Counting a definition leaves all earlier ones. -/
theorem counted (world : World) :
    world.Before { world with definitions := world.definitions + 1 } :=
  ⟨Nat.le_refl _, Nat.le_succ _⟩

end World.Before

/-- What has come about in a world, and what holds of the world along with that. -/
structure Stock where
  /-- The frames that have come about. -/
  frames : World → Nat → Prop
  /-- The functions that have come about. -/
  functions : World → Function → Prop
  /-- What holds of the world while so many calls are under way. -/
  holds : Nat → World → Prop

namespace Stock

variable {α β : Type} {stock : Stock} {level : Nat} {start : World}

/-- Whether all functions in a value have come about. -/
def Made (stock : Stock) (world : World) (value : Value) : Prop :=
  value.Only (stock.functions world)

/-- Whether all functions in some values have come about. -/
def AllMade (stock : Stock) (world : World) (values : List Value) : Prop :=
  AllOnly (stock.functions world) values

/-- Whether an evaluation may leave a world behind that has started in another one. -/
structure Leads (stock : Stock) (level : Nat) (start after : World) : Prop where
  /-- Nothing has been taken away. -/
  before : start.Before after
  /-- As many calls are under way, and the same holds. -/
  holds : stock.holds level after

/-- Whether a run has kept what holds of the world, and yielded what is claimed if anything. -/
def Kept (stock : Stock) (level : Nat) (start : World) (yields : World → α → Prop) :
    EStateM.Result Stop World α → Prop :=
  Ends (fun found after => stock.Leads level start after ∧ yields after found)
    fun _ after => stock.Leads level start after

/-- Whether an evaluation keeps what holds of the world, and yields what is claimed if anything. -/
def Keeps (stock : Stock) (level : Nat) (start : World) (yields : World → α → Prop)
    (evaluation : Evaluation α) : Prop :=
  stock.holds level start → stock.Kept level start yields (evaluation start)

/-- Whether a way to evaluate keeps what holds, and what it yields has come about. -/
def KeepsAll (stock : Stock) (self : Evaluator) : Prop :=
  ∀ level start expr frame, stock.frames start frame →
    stock.Keeps level start stock.Made (self expr frame)

/-- To do nothing leads back to where it began. -/
theorem Leads.refl (held : stock.holds level start) : stock.Leads level start start :=
  ⟨.refl start, held⟩

/-- What leads on from what has been led to has led there from the start. -/
theorem Leads.trans {between after : World} (first : stock.Leads level start between)
    (second : stock.Leads level between after) : stock.Leads level start after :=
  ⟨first.before.trans second.before, second.holds⟩

variable {yields : World → α → Prop} {evaluation : Evaluation α}

/-- To yield something at once keeps what holds, if what is claimed of it holds already. -/
theorem Keeps.pure {found : α} (claimed : yields start found) :
    stock.Keeps level start yields (pure found) :=
  fun held => ⟨.refl held, claimed⟩

/-- To stop leaves the world as it is. -/
theorem Keeps.throw {stop : Stop} : stock.Keeps level start yields (throw stop) :=
  fun held => .refl held

/-- One evaluation after another keeps what holds if each of them does. -/
theorem Keeps.bind {further : World → β → Prop} {next : α → Evaluation β}
    (first : stock.Keeps level start yields evaluation)
    (rest : ∀ after found, start.Before after → yields after found →
      stock.Keeps level after further (next found)) :
    stock.Keeps level start further (evaluation >>= next) := by
  intro held
  have begun : Triple (· = start) evaluation
      (fun found after => stock.Leads level start after ∧ yields after found)
      (fun _ after => stock.Leads level start after) := by
    rintro _ rfl
    exact first held
  refine begun.bind (fun found between both => ?_) start rfl
  -- What the second one leads to from where the first has led, both lead to together.
  obtain ⟨leads, claimed⟩ := both
  exact (rest between found leads.before claimed leads.holds).mono
    (fun _ _ ended => ⟨leads.trans ended.1, ended.2⟩) fun _ _ ended => leads.trans ended

/-- Nothing is claimed about a value that is thrown away. -/
theorem Keeps.discard (first : stock.Keeps level start yields evaluation) :
    stock.Keeps level start (fun _ _ => True) (discard evaluation) :=
  first.bind fun _ _ _ _ => .pure trivial

/-- A change keeps what holds if it takes nothing away. -/
theorem Keeps.modifyGet {change : World → α × World}
    (keeps : stock.holds level start → start.Before (change start).2 ∧
      stock.holds level (change start).2 ∧ yields (change start).2 (change start).1) :
    stock.Keeps level start yields (modifyGet change) :=
  fun held => ⟨⟨(keeps held).1, (keeps held).2.1⟩, (keeps held).2.2⟩

/-- A look at the world gives the one from which it is taken. -/
theorem Keeps.get_bind {next : World → Evaluation α}
    (rest : stock.Keeps level start yields (next start)) :
    stock.Keeps level start yields (get >>= next) :=
  rest

/-- Whether every single thing that evaluation does keeps what holds, and so what has come about. -/
structure Upheld (stock : Stock) (context : Context) : Prop where
  /-- A frame that has come about stays. -/
  frames_mono : ∀ {world later frame}, World.Before world later → stock.frames world frame →
    stock.frames later frame
  /-- A function that has come about stays. -/
  functions_mono : ∀ {world later function}, World.Before world later →
    stock.functions world function → stock.functions later function
  /-- Built-in functions are always there. -/
  builtin : ∀ {world builtin}, stock.functions world (.builtin builtin)
  /-- What happens may be written down. -/
  noted : ∀ {level world happening}, (∀ function arguments,
    happening ≠ .entered function arguments) → stock.holds level world →
      stock.holds level (world.note happening)
  /-- What a name is bound to has come about. -/
  lookup : ∀ {level world frame name value}, stock.frames world frame → stock.holds level world →
    world.heap.lookup frame name = some value → stock.Made world value
  /-- What has come about may be bound. -/
  bind : ∀ {level world frame name value}, stock.Made world value → stock.holds level world →
    stock.holds level (world.bind frame name value)
  /-- Definitions may be counted. -/
  counted : ∀ {level world}, stock.holds level world →
    stock.holds level { world with definitions := world.definitions + 1 }
  /-- A definition makes a function in its frame, which has come about then. -/
  define : ∀ {level world name params returnType body frame}, stock.frames world frame →
    stock.holds level world →
      stock.functions { world with definitions := world.definitions + 1 }
        (.closure ⟨world.definitions, name, params, returnType, body, frame⟩)
  /-- A function that has come about may be entered. -/
  enter : ∀ {level world function arguments}, stock.functions world function →
    stock.AllMade world arguments → stock.holds level world →
      stock.holds (level + 1) (world.enter function arguments)
  /-- The host may be called; the functions in its answer have come about then. -/
  answered : ∀ {level world function arguments}, stock.functions world (.host function) →
    stock.AllMade world arguments → stock.holds level world →
      let reply := context.host world.hostCalls ⟨function, arguments⟩
      let after := (world.enter (.host function) arguments).heed reply
      stock.holds (level + 1) after ∧ ∀ value, reply.result = .ok value → stock.Made after value
  /-- Calls may be left. -/
  leave : ∀ {level world}, stock.holds (level + 1) world → stock.holds level (afterCall world)
  /-- A frame may be put into the frame of a function that has come about. -/
  extend : ∀ {level world closure}, stock.functions world (.closure closure) →
    stock.holds level world →
      let after := { world with heap := world.heap.extend closure.frame }
      stock.holds level after ∧ stock.frames after world.heap.next

namespace Upheld

variable {context : Context} (upheld : stock.Upheld context) {frame : Nat} {self : Evaluator}

include upheld

/-- A value that has come about is there in every later world. -/
theorem made_mono {later : World} {value : Value} (made : stock.Made start value)
    (before : start.Before later) : stock.Made later value :=
  fun function member => upheld.functions_mono before (made function member)

/-- Values that have come about are there in every later world. -/
theorem allMade_mono {later : World} {values : List Value} (made : stock.AllMade start values)
    (before : start.Before later) : stock.AllMade later values :=
  fun function member => upheld.functions_mono before (made function member)

/-- To fail leaves what holds. -/
theorem raise {error : EvalError} : stock.Keeps level start yields (raise error) :=
  -- All that failing changes is the journal, where an error takes no arguments with it.
  fun held => ⟨⟨Nat.le_refl _, Nat.le_refl _⟩, upheld.noted (by simp) held⟩

/-- Notes keep what holds, unless they say that a function is entered. -/
theorem note {happening : Happening}
    (quiet : ∀ function arguments, happening ≠ .entered function arguments) :
    stock.Keeps level start (fun _ _ => True) (note happening) :=
  Keeps.modifyGet fun held => ⟨⟨Nat.le_refl _, Nat.le_refl _⟩, upheld.noted quiet held, trivial⟩

/-- An outcome that is known already is yielded, or raised as a failure. -/
theorem ofExcept {outcome : Except EvalError α}
    (claimed : ∀ found, outcome = .ok found → yields start found) :
    stock.Keeps level start yields (ofExcept outcome) := by
  cases outcome with
  -- The outcome is a value, of which the claim is known.
  | ok found => exact .pure (claimed found rfl)
  -- The outcome is an error, which is raised.
  | error error => exact upheld.raise

/-- A check of shapes yields its outcome, or fails. -/
theorem ofShape (outcome : Except ShapeError α) :
    stock.Keeps level start (fun _ found => outcome = .ok found) (ofShape outcome) := by
  cases outcome with
  -- The shape is right, and its parts are the outcome.
  | ok found => exact .pure rfl
  -- The shape is wrong.
  | error error => exact upheld.raise

/-- Looking up a name gives what has come about. -/
theorem lookup_keeps (there : stock.frames start frame) (name : Name) :
    stock.Keeps level start stock.Made (Evaluation.lookup frame name) := by
  -- What the frame binds is read off the world before anything has changed.
  intro held
  refine Keeps.get_bind ?_ held
  cases found : start.heap.lookup frame name with
  -- The name is unbound, which is a failure.
  | none => exact upheld.raise
  -- The value stands in a frame that has come about, so it has come about itself.
  | some value => exact .pure (upheld.lookup there held found)

/-- A value that has come about may be bound in any frame. -/
theorem bind_keeps {value : Value} (made : stock.Made start value) (frame : Nat) (name : Name) :
    stock.Keeps level start (fun _ _ => True) (Evaluation.bind frame name value) :=
  Keeps.modifyGet fun held => ⟨.bind start frame name value, upheld.bind made held, trivial⟩

/-- Polls keep what holds, with the flag set or not. -/
theorem poll : stock.Keeps level start (fun _ _ => True) poll := by
  -- A poll is noted before the flag is looked at.
  refine (upheld.note (by simp)).bind fun after _ _ _ => Keeps.get_bind ?_
  split
  -- The flag is set, so the poll fails.
  · exact upheld.raise
  -- The flag is not set.
  · exact .pure trivial

/-- The check of the depth changes nothing but the journal. -/
theorem checkDepth : stock.Keeps level start (fun _ _ => True) (checkDepth context) := by
  -- There is a limit only if one has been set.
  unfold Evaluation.checkDepth
  split
  -- There is none, so nothing is checked.
  · exact .pure trivial
  · refine Keeps.get_bind ?_
    split
    -- The limit has been reached.
    · exact upheld.raise
    -- There is room for another call.
    · exact .pure trivial

/-! One lemma for each way in which evaluation goes through a node. What a part of the node yields
has come about in the world that is left behind then, and in all that later parts leave behind. -/

section Nodes

variable (keeps : stock.KeepsAll self) (there : stock.frames start frame)

include keeps there

/-- The values of expressions have all come about once the last one is evaluated. -/
theorem evalAll {exprs : List Expr} :
    stock.Keeps level start stock.AllMade (evalAll self frame exprs) := by
  -- By induction on the expressions, each of which starts where the one before it has stopped.
  induction exprs generalizing start with
  | nil => exact .pure nofun
  | cons expr rest ih =>
    refine (keeps level start expr frame there).bind fun between value before made => ?_
    refine (ih (upheld.frames_mono before there)).bind fun after values before' allMade => ?_
    -- What the first expression has come to is still there after the others.
    exact .pure (allOnly_cons.mpr ⟨upheld.made_mono made before', allMade⟩)

/-- A node with two operands yields a plain value. -/
theorem evalBinary (context' : Context) (operation : Operation) (children : List Expr) :
    stock.Keeps level start stock.Made (evalBinary context' self frame operation children) := by
  -- The frame stays through both operands.
  refine (upheld.ofShape _).bind fun _ parts before _ => ?_
  have there' := upheld.frames_mono before there
  refine (keeps level _ parts.1 frame there').bind fun _ x before' _ => ?_
  refine (keeps level _ parts.2 frame (upheld.frames_mono before' there')).bind fun _ y _ _ => ?_
  -- Numbers, texts and truth values hold no functions.
  exact upheld.ofExcept fun result computed =>
    only_of_not_isComposite (Operator.isComposite_of_applyBinary computed)

/-- A node with one operand yields a plain value. -/
theorem evalUnary (operation : Operation) (children : List Expr) :
    stock.Keeps level start stock.Made (evalUnary self frame operation children) := by
  -- The result holds no functions, whatever the operand does.
  refine (upheld.ofShape _).bind fun _ operand before _ => ?_
  refine (keeps level _ operand frame (upheld.frames_mono before there)).bind fun _ x _ _ => ?_
  exact upheld.ofExcept fun result computed =>
    only_of_not_isComposite (Operator.isComposite_of_applyUnary computed)

/-- A truth value is read off what an operand comes to. -/
theorem evalTruth (operation : Operation) (operand : Expr) :
    stock.Keeps level start (fun _ _ => True) (evalTruth self frame operation operand) := by
  -- Only the operand does anything to the world.
  refine (keeps level start operand frame there).bind fun _ value _ _ => ?_
  cases value.boolean? with
  | some truth => exact .pure trivial
  | none => exact upheld.raise

/-- A truth value is read off what a condition comes to. -/
theorem evalCondition (place : Place) (condition : Expr) :
    stock.Keeps level start (fun _ _ => True) (evalCondition self frame place condition) := by
  -- Only the condition does anything to the world.
  refine (keeps level start condition frame there).bind fun _ value _ _ => ?_
  cases value.boolean? with
  | some truth => exact .pure trivial
  | none => exact upheld.raise

/-- A short circuit evaluates its second operand from where the first has left the world, or not at
all. -/
theorem evalShortCircuit (operation : Operation) (children : List Expr) :
    stock.Keeps level start stock.Made (evalShortCircuit self frame operation children) := by
  -- The first operand is evaluated in either case.
  refine (upheld.ofShape _).bind fun world parts before _ => ?_
  have there' := upheld.frames_mono before there
  refine (upheld.evalTruth keeps there' operation parts.1).bind fun world' truth before' _ => ?_
  -- Truth values have come about in every world, whichever operand they come from.
  have plain (world : World) (truth : Bool) : stock.Made world (.boolean truth) :=
    only_of_not_isComposite rfl
  have other : stock.Keeps level world' stock.Made
      (do return .boolean (← Evaluation.evalTruth self frame operation parts.2)) :=
    (upheld.evalTruth keeps (upheld.frames_mono before' there') operation parts.2).bind
      fun _ _ _ _ => .pure (plain _ _)
  split
  · -- A conjunction goes on if the first operand holds.
    cases truth with
    | true => exact other
    | false => exact .pure (plain _ _)
  · -- A disjunction goes on if the first operand does not hold.
    cases truth with
    | true => exact .pure (plain _ _)
    | false => exact other
  -- No other operator comes here with operands.
  · exact upheld.raise

/-- The value of a sequence is that of its last item, which is evaluated in the last world. -/
theorem evalSequence {items : List Expr} :
    stock.Keeps level start stock.Made (evalSequence self frame items) := by
  -- The cases are those of the sequence: no item, the last one, one with others behind it.
  induction items using evalSequence.induct generalizing start with
  | case1 => exact upheld.raise
  | case2 last => exact keeps level start last frame there
  | case3 item rest more ih =>
    rw [evalSequence.eq_3 self frame item rest more]
    refine (keeps level start item frame there).discard.bind fun _ _ before _ => ?_
    exact ih (upheld.frames_mono before there)

/-- What a binding yields is what the name is bound to, old or new. -/
theorem evalBind (children : List Expr) :
    stock.Keeps level start stock.Made (evalBind self frame children) := by
  -- The target is looked at before the value is evaluated.
  refine (upheld.ofShape _).bind fun world parts before _ => ?_
  obtain ⟨aim, expr⟩ := parts
  dsimp only
  cases aim.symbol? with
  | none => exact upheld.raise
  | some name =>
    have there' := upheld.frames_mono before there
    refine (keeps level world expr frame there').bind fun after value before' made =>
      Keeps.get_bind ?_
    -- The name keeps its value if the frame binds it already, and takes the new one otherwise.
    split
    · exact upheld.lookup_keeps (upheld.frames_mono before' there') name
    · exact (upheld.bind_keeps made frame name).bind fun _ _ before'' _ =>
        .pure (upheld.made_mono made before'')

/-- The value of a selection is that of one consequent, or there is none. -/
theorem evalSelect {arms : List Expr} :
    stock.Keeps level start stock.Made (evalSelect self frame arms) := by
  -- By induction on the arms, in their order.
  induction arms generalizing start with
  | nil => exact upheld.raise
  | cons arm rest ih =>
    unfold Evaluation.evalSelect
    split
    case h_1 => contradiction
    case h_2 token children rest' same =>
      obtain ⟨rfl, rfl⟩ := List.cons.inj same
      refine (upheld.ofShape _).bind fun _ parts before _ => ?_
      have there' := upheld.frames_mono before there
      refine (upheld.evalCondition keeps there' .antecedent parts.1).bind
        fun _ truth before' _ => ?_
      -- An arm that does not hold still leads to the world from which the next one starts.
      cases truth with
      | true => exact keeps level _ parts.2 frame (upheld.frames_mono before' there')
      | false => exact ih (upheld.frames_mono before' there')
    case h_3 => exact upheld.raise

/-- The items of a body are evaluated one after the other. -/
theorem evalBody {items : List Expr} :
    stock.Keeps level start (fun _ _ => True) (evalBody self frame items) := by
  -- By induction on the items, whose values nobody keeps.
  induction items generalizing start with
  | nil => exact .pure trivial
  | cons item rest ih =>
    refine (keeps level start item frame there).discard.bind fun _ _ before _ => ?_
    exact ih (upheld.frames_mono before there)

/-- A round of a loop keeps what holds. -/
theorem evalRound (condition body : Expr) :
    stock.Keeps level start (fun _ _ => True) (evalRound self frame condition body) := by
  -- A round polls, notes that it tests its condition, and evaluates the condition.
  refine upheld.poll.bind fun _ _ before _ => ?_
  refine (upheld.note (by simp)).bind fun _ _ before' _ => ?_
  have there' := upheld.frames_mono (before.trans before') there
  refine (upheld.evalCondition keeps there' .loopCondition condition).bind
    fun _ truth before'' _ => ?_
  cases truth with
  -- The condition holds, and the body is gone through.
  | true =>
    exact (upheld.evalBody keeps (upheld.frames_mono before'' there')).bind
      fun _ _ _ _ => .pure trivial
  | false => exact .pure trivial

/-- A loop keeps what holds, however many rounds it takes. -/
theorem evalLoop (rounds : Nat) (children : List Expr) :
    stock.Keeps level start stock.Made (evalLoop self rounds frame children) := by
  -- The frame stays from the check of the parts to the first round.
  refine (upheld.ofShape _).bind fun world parts before _ => ?_
  have there' := upheld.frames_mono before there
  clear before
  simp only
  -- Every round starts from the world that the one before it has left behind.
  induction rounds generalizing world with
  | zero => exact .throw
  | succ rounds ih =>
    rw [evalRounds_succ]
    refine (upheld.evalRound keeps there' parts.1 parts.2).bind fun _ again before' _ => ?_
    cases again with
    | true => exact ih _ (upheld.frames_mono before' there')
    | false => exact .pure nofun

omit keeps in
/-- A definition yields a new function, which is bound as well if it has a name. -/
theorem evalDefine (name : Option Name) (children : List Expr) :
    stock.Keeps level start stock.Made (evalDefine frame name children) := by
  -- Types are resolved before the function gets its number.
  refine (upheld.ofShape _).bind fun _ parts before _ => ?_
  have resolved {α : Type} (world : World) (outcome : Except EvalError α) :
      stock.Keeps level world (fun _ _ => True) (Evaluation.ofExcept outcome) :=
    upheld.ofExcept fun _ _ => trivial
  refine (resolved _ (resolveParams parts.params)).bind fun _ params before' _ => ?_
  refine (resolved _ (resolveReturn parts.returnType)).bind fun world returnType before'' _ => ?_
  have there' := upheld.frames_mono ((before.trans before').trans before'') there
  -- The new function has come about with its number.
  have numbered : stock.Keeps level world (fun after id =>
      stock.Made after (.function (.closure ⟨id, name, params, returnType, parts.body, frame⟩)))
      nextDefinition := by
    refine Keeps.modifyGet fun held => ⟨.counted world, upheld.counted held, ?_⟩
    intro function member
    rw [Value.functions, List.mem_singleton] at member
    rw [member]
    exact upheld.define there' held
  refine numbered.bind fun after id later made => ?_
  cases name with
  -- Without a name, nothing is bound.
  | none => exact .pure made
  | some name =>
    exact (upheld.bind_keeps made frame name).bind fun _ _ last _ =>
      .pure (upheld.made_mono made last)

end Nodes

/-- What is done as a call keeps what holds if it does so while the call is under way. -/
theorem underWay {function : Function} {arguments : List Value} {body : Evaluation Value}
    (entered : stock.holds level start →
      stock.Kept (level + 1) start stock.Made (body (start.enter function arguments))) :
    stock.Keeps level start stock.Made (underWay function arguments body) := by
  intro held
  have ended := entered held
  -- The call that has been entered is left, however it ends.
  have left {after : World} (leads : stock.Leads (level + 1) start after) :
      stock.Leads level start (afterCall after) :=
    ⟨leads.before.trans ⟨Nat.le_refl _, Nat.le_refl _⟩, upheld.leave leads.holds⟩
  rw [underWay_apply]
  cases run : body (start.enter function arguments) with
  | error stop after =>
    rw [run] at ended
    exact left ended
  | ok found after =>
    rw [run] at ended
    exact ⟨left ended.1, upheld.made_mono ended.2 ⟨Nat.le_refl _, Nat.le_refl _⟩⟩

/-- Arguments that have come about may be bound to parameters. -/
theorem bindAll {params : List (Name × ValueType)} {values : List Value}
    (made : stock.AllMade start values) :
    -- By induction on the parameters, as long as there are arguments for them.
    stock.Keeps level start (fun _ _ => True) (bindAll frame params values) := by
  induction params generalizing start values with
  -- There are no parameters left.
  | nil => exact .pure trivial
  | cons param params ih =>
    cases values with
    -- There are no arguments left.
    | nil => exact .pure trivial
    | cons value values =>
      -- The first argument is bound, and the others are still there then.
      rw [AllMade, allOnly_cons] at made
      refine (upheld.bind_keeps made.1 frame param.1).bind fun _ _ before _ => ?_
      exact ih (upheld.allMade_mono made.2 before)

section Calls

variable (keeps : stock.KeepsAll self) {arguments : List Value}
  (made : stock.AllMade start arguments)

include keeps made

/-- A closure runs its body in a frame that is new. -/
theorem runClosure {closure : Closure} (known : stock.functions start (.closure closure)) :
    stock.Keeps level start stock.Made (runClosure self closure arguments) := by
  -- The new frame has come about by being put into that of the function.
  have put : stock.Keeps level start stock.frames (Evaluation.extend closure.frame) :=
    Keeps.modifyGet fun held => ⟨.extend start closure.frame, upheld.extend known held⟩
  refine put.bind fun _ frame before there => ?_
  refine (upheld.bindAll (upheld.allMade_mono made before)).bind fun _ _ before' _ => ?_
  exact keeps level _ closure.body frame (upheld.frames_mono before' there)

/-- A function that has come about keeps what holds when it runs as a call. -/
theorem run {function : Function} (known : stock.functions start function) :
    stock.Keeps level start stock.Made
      (Evaluation.underWay function arguments (run context self function arguments)) := by
  refine upheld.underWay fun held => ?_
  have before := World.Before.enter start function arguments
  -- Whatever is done once the function has been entered is done from the start.
  have inside {body : Evaluation Value}
      (kept : stock.Keeps (level + 1) (start.enter function arguments) stock.Made body) :
      stock.Kept (level + 1) start stock.Made (body (start.enter function arguments)) :=
    (kept (upheld.enter known made held)).mono
      (fun _ _ ended => ⟨⟨before.trans ended.1.before, ended.1.holds⟩, ended.2⟩)
      fun _ _ leads => ⟨before.trans leads.before, leads.holds⟩
  cases function with
  | closure closure =>
    exact inside (upheld.runClosure keeps (upheld.allMade_mono made before)
      (upheld.functions_mono before known))
  | builtin builtin =>
    -- A built-in function hands on functions that it has been given.
    have same := (matchAll_sameAllowed_iff arguments).mpr (upheld.allMade_mono made before)
    exact inside (upheld.ofExcept fun value yielded =>
      only_of_alike (builtin.apply_alike _ same) yielded)
  | host host =>
    obtain ⟨holds, answers⟩ := upheld.answered known made held
    rw [Evaluation.run, runHost_apply]
    cases answer : (context.host start.hostCalls ⟨host, arguments⟩).result with
    | ok value =>
      simp only [answer]
      exact ⟨⟨⟨Nat.le_refl _, Nat.le_refl _⟩, holds⟩, answers value answer⟩
    | error error =>
      simp only [answer]
      exact ⟨⟨Nat.le_refl _, Nat.le_refl _⟩, upheld.noted (by simp) holds⟩

/-- Calls keep what holds. -/
theorem call {function : Function} (known : stock.functions start function) :
    stock.Keeps level start stock.Made (call context self function arguments) := by
  -- A call polls and checks its arguments before it counts.
  refine upheld.poll.bind fun world _ before _ => ?_
  have checks : stock.Keeps level world stock.AllMade
      (Evaluation.ofExcept (function.checkArguments arguments)) := by
    refine upheld.ofExcept fun checked passed => ?_
    -- Checked arguments hold the same functions as the ones that have been passed.
    have same := (matchAll_sameAllowed_iff arguments).mpr (upheld.allMade_mono made before)
    have alike := Function.checkArguments_alike (Eq.refl function.displayName) rfl same
    rw [passed] at alike
    exact (matchAll_sameAllowed_iff checked).mp alike
  -- A call is entered from a world in which all that it works on has come about.
  refine checks.bind fun world' checked before' fit => ?_
  refine upheld.checkDepth.bind fun world'' _ before'' _ => ?_
  refine (upheld.run keeps (upheld.allMade_mono fit before'')
    (upheld.functions_mono (before.trans (before'.trans before'')) known)).bind
    fun _ result _ found => ?_
  refine upheld.ofExcept fun value passed => ?_
  -- A checked result holds the same functions as what the function has yielded.
  have same := (match_sameAllowed_iff result).mpr found
  exact only_of_alike (Function.checkResult_alike (Eq.refl function.displayName) rfl same) passed

end Calls

/-- A call finds its function first, which stays while its arguments are evaluated. -/
theorem evalCall (keeps : stock.KeepsAll self) (there : stock.frames start frame)
    (name : Option Name) (children : List Expr) :
    stock.Keeps level start stock.Made (evalCall context self frame name children) := by
  have callee : stock.Keeps level start (fun after found => stock.Made after found.1)
      (evalCallee self frame name children) := by
    -- The function is bound to a name, or defined on the spot.
    unfold evalCallee
    split
    · exact (upheld.lookup_keeps there _).bind fun _ _ _ made => .pure made
    · exact (keeps level start _ frame there).bind fun _ _ _ made => .pure made
    · exact upheld.raise
  refine callee.bind fun _ found before made => ?_
  obtain ⟨value, arguments⟩ := found
  have there' := upheld.frames_mono before there
  -- The function has come about before its arguments are evaluated, and it is still there after.
  cases value with
  | function function =>
    refine (upheld.evalAll keeps there').bind fun _ values before' allMade => ?_
    exact upheld.call keeps allMade
      (upheld.functions_mono before' (made function (by simp [Value.functions])))
  | _ => exact upheld.raise

/-- Evaluation keeps what holds, and what it yields has come about. -/
theorem keepsAll_eval (steps : Nat) : stock.KeepsAll (eval context steps) := by
  -- By induction on the steps: every part of a node is evaluated with one step less.
  induction steps with
  -- Without steps, evaluation stops at once.
  | zero => exact fun _ _ _ _ _ => .throw
  | succ steps ih =>
    intro level start expr frame there
    cases expr with
    | literal token value => exact .pure (only_of_not_isComposite (by cases value <;> rfl))
    | symbol name => exact upheld.lookup_keeps there name
    | node operation name children =>
      change stock.Keeps level start _
        (evalNode context (eval context steps) steps frame operation name children)
      -- The cases are those of evaluation; at the end are operators between two operands.
      cases operation
      case negate | negation => exact upheld.evalUnary ih there _ children
      case both | either => exact upheld.evalShortCircuit ih there _ children
      case list => exact (upheld.evalAll ih there).bind fun _ _ _ made => .pure made
      case sequence => exact upheld.evalSequence ih there
      case bind => exact upheld.evalBind ih there children
      case select => exact upheld.evalSelect ih there
      case loop => exact upheld.evalLoop ih there steps children
      case define => exact upheld.evalDefine there name children
      case call => exact upheld.evalCall ih there name children
      case pair | symbol => exact upheld.raise
      all_goals exact upheld.evalBinary ih there context _ children

/-- Evaluation keeps what holds if the shape of the expression is checked first. -/
theorem checked_keeps (steps : Nat) {expr : Expr} (there : stock.frames start frame) :
    stock.Keeps level start stock.Made
      (do Evaluation.ofShape expr.validate; eval context steps expr frame) :=
  -- The frame is still there after the check.
  (upheld.ofShape expr.validate).bind fun after _ before _ =>
    upheld.keepsAll_eval steps level after expr frame (upheld.frames_mono before there)

/-- Calls keep what holds when evaluation goes on in them. -/
theorem call_keeps (steps : Nat) {function : Function} {arguments : List Value}
    (known : stock.functions start function) (made : stock.AllMade start arguments) :
    stock.Keeps level start stock.Made
      (Evaluation.call context (eval context steps) function arguments) :=
  upheld.call (upheld.keepsAll_eval steps) made known

end Upheld

/-- What holds before an evaluation that keeps it holds afterwards, however it ends. -/
theorem Keeps.leads_after (kept : stock.Keeps level start yields evaluation)
    (held : stock.holds level start) : stock.Leads level start (evaluation.after start) := by
  -- What has been kept says something about either way to end.
  have ended := kept held
  unfold Evaluation.after
  cases run : evaluation start with
  | ok found after =>
    rw [run] at ended
    exact ended.1
  | error stop after =>
    rw [run] at ended
    exact ended

end Stock

end Scriptlet

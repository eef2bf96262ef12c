/-! Steps that yield something or fail, taken one after the other. -/

namespace Scriptlet

variable {ε α β : Type}

/-- After a step that yields something, the next one starts from it. -/
@[simp] theorem ok_bind (found : α) (next : α → Except ε β) :
    (Except.ok found >>= next) = next found := rfl

/-- After a step that fails, there is no next one. -/
@[simp] theorem error_bind (error : ε) (next : α → Except ε β) :
    (Except.error error >>= next) = .error error := rfl

/-- A change of the reasons for failing leaves what is yielded as it is. -/
@[simp] theorem ok_mapError {δ : Type} (change : ε → δ) (found : α) :
    (Except.ok found : Except ε α).mapError change = .ok found := rfl

/-- A change of the reasons for failing changes the reason. -/
@[simp] theorem error_mapError {δ : Type} (change : ε → δ) (error : ε) :
    (Except.error error : Except ε α).mapError change = .error (change error) := rfl

/-- Yielding something at once is a step that does not fail. -/
@[simp] theorem pure_eq_ok (found : α) : (pure found : Except ε α) = .ok found := rfl

/-- Failing at once is a step that fails. -/
@[simp] theorem throw_eq_error (error : ε) : (throw error : Except ε α) = .error error := rfl

/-- Two steps in a row yield something exactly when both of them do. -/
theorem bind_eq_ok {first : Except ε α} {next : α → Except ε β} {result : β} :
    (first >>= next) = .ok result ↔ ∃ found, first = .ok found ∧ next found = .ok result := by
  -- A failure of the first step leaves nothing to be found on either side.
  cases first <;> simp

/-- A check and what comes after it yield something exactly when the check passes and that does. -/
theorem check_bind_eq_ok {check : Except ε Unit} {next : Except ε β} {result : β} :
    (do check; next) = .ok result ↔ check = .ok () ∧ next = .ok result := by
  -- A check yields nothing but that it passes.
  cases check <;> simp

/-- Two steps in a row fail exactly when the first one does or the second one does after it. -/
theorem bind_eq_error {first : Except ε α} {next : α → Except ε β} {error : ε} :
    (first >>= next) = .error error ↔
      first = .error error ∨ ∃ found, first = .ok found ∧ next found = .error error := by
  -- Whatever the first step yields, the second one starts from it.
  cases first <;> simp

/-- What a step yields is passed on through a function. -/
theorem map_eq_ok {outcome : Except ε α} {change : α → β} {result : β} :
    outcome.map change = .ok result ↔ ∃ found, outcome = .ok found ∧ change found = result := by
  -- A failure carries nothing that could be changed.
  cases outcome <;> simp [Except.map]

/-- A failure is passed on past a function. -/
theorem map_eq_error {outcome : Except ε α} {change : α → β} {error : ε} :
    outcome.map change = .error error ↔ outcome = .error error := by
  -- A failure stays the one it was.
  cases outcome <;> simp [Except.map]

/-- Whether an outcome that fails does so in one of certain ways. -/
def FailsAs (failures : ε → Prop) (outcome : Except ε α) : Prop :=
  ∀ error, outcome = .error error → failures error

namespace FailsAs

variable {failures : ε → Prop} {outcome : Except ε α}

/-- What does not fail does not fail otherwise. -/
theorem ok (found : α) : FailsAs failures (.ok found) := by
  intro error failed
  cases failed

/-- A failure of such a kind is one. -/
theorem error {failure : ε} (listed : failures failure) :
    FailsAs failures (.error failure : Except ε α) := by
  -- There is one failure that this outcome may be.
  intro other same
  rwa [← Except.error.inj same]

/-- Steps that fail in such ways do so in a row. -/
theorem bind {next : α → Except ε β} (first : FailsAs failures outcome)
    (rest : ∀ found, FailsAs failures (next found)) : FailsAs failures (outcome >>= next) := by
  -- Only if the first step yields something is there a second one that may fail.
  cases outcome with
  | ok found => exact rest found
  | error failure => exact error (first failure rfl)

/-- What is made of a result has no say in why there is none. -/
theorem map {change : α → β} (first : FailsAs failures outcome) :
    FailsAs failures (outcome.map change) := by
  -- There is nothing to change in a failure.
  cases outcome with
  | ok found => exact ok _
  | error failure => exact error (first failure rfl)

/-- Of two outcomes that fail in such ways, either does so. -/
theorem ite {condition : Prop} [Decidable condition] {other : Except ε α}
    (here : FailsAs failures outcome) (there : FailsAs failures other) :
    FailsAs failures (if condition then outcome else other) := by
  split
  · -- The condition picks one of the two, and both are as they should be.
    exact here
  · exact there

/-- There are more ways to fail than these. -/
theorem mono {wider : ε → Prop} (fails : FailsAs failures outcome)
    (within : ∀ error, failures error → wider error) : FailsAs wider outcome :=
  fun error failed => within error (fails error failed)

end FailsAs

/-- Two outcomes fail for the same reason, or what they yield is related. -/
def Alike {γ : Type} (related : β → γ → Prop) : Except ε β → Except ε γ → Prop
  | .ok left, .ok right => related left right
  | .error left, .error right => left = right
  | _, _ => False

/-- Steps with related outcomes are followed by steps with related outcomes. -/
theorem Alike.bind {γ δ : Type} {related : α → γ → Prop} {further : β → δ → Prop}
    {left : Except ε α} {right : Except ε γ} {next : α → Except ε β} {next' : γ → Except ε δ}
    (first : Alike related left right)
    (rest : ∀ found found', related found found' → Alike further (next found) (next' found')) :
    Alike further (left >>= next) (right >>= next') := by
  -- An outcome on one side and a failure on the other are not related.
  cases left <;> cases right <;> simp only [Alike] at first
  · exact first
  · exact rest _ _ first

/-- Related outcomes are equal if only equal things are related. -/
theorem Alike.eq {related : β → β → Prop} {left right : Except ε β}
    (alike : Alike related left right)
    (only : ∀ found found', related found found' → found = found') : left = right := by
  -- Failures are related by being equal already; results are equal because only those are related.
  cases left <;> cases right <;> simp only [Alike] at alike
  · rw [alike]
  · rw [only _ _ alike]

/-- An outcome is related to itself if what it may yield is. -/
theorem Alike.refl {related : β → β → Prop} {outcome : Except ε β}
    (own : ∀ found, outcome = .ok found → related found found) : Alike related outcome outcome := by
  -- A failure is equal to itself, and a result is related to itself by assumption.
  cases outcome with
  | ok found => exact own found rfl
  | error error => rfl

/-- An outcome is related to itself by yielding one and the same thing, which it does yield. -/
theorem Alike.known (outcome : Except ε β) :
    Alike (fun found found' => found = found' ∧ outcome = .ok found) outcome outcome :=
  .refl fun _ yielded => ⟨rfl, yielded⟩

/-- Two outcomes are both failures, for whatever reasons, or what they yield is related. -/
def Concur {γ : Type} (related : β → γ → Prop) : Except ε β → Except ε γ → Prop
  | .ok left, .ok right => related left right
  | .error _, .error _ => True
  | _, _ => False

/-- Steps with outcomes that concur are followed by steps with outcomes that concur. -/
theorem Concur.bind {γ δ : Type} {related : α → γ → Prop} {further : β → δ → Prop}
    {left : Except ε α} {right : Except ε γ} {next : α → Except ε β} {next' : γ → Except ε δ}
    (first : Concur related left right)
    (rest : ∀ found found', related found found' → Concur further (next found) (next' found')) :
    Concur further (left >>= next) (right >>= next') := by
  -- If one first step fails and the other does not, they do not concur in the first place.
  cases left <;> cases right <;> simp only [Concur] at first
  · trivial
  · exact rest _ _ first

/-- An outcome concurs with itself if what it may yield is related to itself. -/
theorem Concur.refl {related : β → β → Prop} {outcome : Except ε β}
    (own : ∀ found, related found found) : Concur related outcome outcome := by
  -- Nothing is asked of two failures.
  cases outcome with
  | ok found => exact own found
  | error error => trivial

/-- Outcomes that concur in what they yield yield the same or nothing. -/
theorem Concur.eq_ok_iff {left right : Except ε β} (concur : Concur (· = ·) left right)
    (found : β) : left = .ok found ↔ right = .ok found := by
  -- Where one side fails, so does the other, and neither is a result.
  cases left <;> cases right <;> simp_all [Concur]

/-- Of two things that may be missing, related ones are both missing or both there. -/
theorem rel_cases {related : α → β → Prop} {left : Option α} {right : Option β}
    (same : Option.Rel related left right) :
    (left = none ∧ right = none) ∨
      ∃ found found', left = some found ∧ right = some found' ∧ related found found' := by
  -- The relation of things that may be missing has a case for each of the two.
  cases same with
  | none => exact .inl ⟨rfl, rfl⟩
  | some found => exact .inr ⟨_, _, rfl, rfl, found⟩

/-- An outcome that passes is a result. -/
theorem exists_of_isOk {outcome : Except ε α} (pass : outcome.isOk = true) :
    ∃ result, outcome = .ok result := by
  -- A failure does not pass.
  cases outcome with
  | ok result => exact ⟨result, rfl⟩
  | error error => simp [Except.isOk, Except.toBool] at pass

/-- An outcome that does not pass is a failure. -/
theorem exists_of_not_isOk {outcome : Except ε α} (fail : ¬outcome.isOk = true) :
    ∃ error, outcome = .error error := by
  -- A result passes.
  cases outcome with
  | ok result => simp [Except.isOk, Except.toBool] at fail
  | error error => exact ⟨error, rfl⟩

end Scriptlet

import Scriptlet.Proofs.Value.Match

/-!
Which functions a value holds: those in it, of whatever kind, inside lists as well.

A value matches itself exactly if each of its functions does, so that what is proved of matching
values also tells which functions come out of which.
-/

namespace Scriptlet.Value

mutual

/-- The functions in a value. -/
def functions : Value → List Function
  | list items => allFunctions items
  | function f => [f]
  | _ => []

/-- The functions in some values. -/
def allFunctions : List Value → List Function
  | [] => []
  | value :: rest => value.functions ++ allFunctions rest

end

mutual

/-- The functions of scripts in a value are those of its functions that are of scripts. -/
theorem mem_closures_iff {closure : Closure} : (value : Value) →
    (closure ∈ value.closures ↔ .closure closure ∈ value.functions)
  | list items => mem_allClosures_iff items
  | function (.closure _) => by simp [closures, functions]
  | function (.builtin _) | function (.host _) => by simp [closures, functions]
  | integer _ | real _ | string _ | boolean _ => by simp [closures, functions]

/-- The functions of scripts in some values are those of their functions that are of scripts. -/
theorem mem_allClosures_iff {closure : Closure} : (values : List Value) →
    (closure ∈ allClosures values ↔ .closure closure ∈ allFunctions values)
  | [] => by simp [allClosures, allFunctions]
  | value :: rest => by
    -- Functions come from the first value or from the rest.
    rw [allClosures, allFunctions, List.mem_append, List.mem_append, mem_closures_iff value,
      mem_allClosures_iff rest]

end

/-- Whether a value holds only allowed functions. -/
def Only (allowed : Function → Prop) (value : Value) : Prop :=
  ∀ f ∈ value.functions, allowed f

/-- Whether some values hold only allowed functions. -/
def AllOnly (allowed : Function → Prop) (values : List Value) : Prop :=
  ∀ f ∈ allFunctions values, allowed f

/-- The same function, which is an allowed one. -/
def sameAllowed (allowed : Function → Prop) (left right : Function) : Prop :=
  left = right ∧ allowed left

variable {allowed : Function → Prop} {related : Function → Function → Prop}

/-- Values in a row hold only allowed functions exactly when each of them does. -/
theorem allOnly_cons {value : Value} {rest : List Value} :
    AllOnly allowed (value :: rest) ↔ Only allowed value ∧ AllOnly allowed rest := by
  -- The functions of the row are those of the first value and those of the others.
  simp only [AllOnly, Only, allFunctions, List.mem_append, or_imp, forall_and]

mutual

/-- A value matches itself exactly when all functions in it do. -/
theorem match_self_iff : (value : Value) →
    (Match related value value ↔ Only (fun f => related f f) value)
  | list items => matchAll_self_iff items
  | function f => by simp [Match, Only, functions]
  | integer _ | real _ | string _ | boolean _ => by simp [Match, Only, functions]

/-- Values in a row match themselves exactly when all functions in them do. -/
theorem matchAll_self_iff : (values : List Value) →
    (MatchAll related values values ↔ AllOnly (fun f => related f f) values)
  | [] => by simp [MatchAll, AllOnly, allFunctions]
  | value :: rest => by
    -- A row matches itself item by item.
    rw [MatchAll, match_self_iff value, matchAll_self_iff rest, allOnly_cons]

end

/-- A value matches itself by allowed functions exactly when it holds no others. -/
theorem match_sameAllowed_iff (value : Value) :
    Match (sameAllowed allowed) value value ↔ Only allowed value := by
  -- Nothing more is asked of two functions that are the same than to be allowed.
  rw [match_self_iff]
  simp [sameAllowed]

/-- Values in a row match themselves by allowed functions exactly when they hold no others. -/
theorem matchAll_sameAllowed_iff (values : List Value) :
    MatchAll (sameAllowed allowed) values values ↔ AllOnly allowed values := by
  rw [matchAll_self_iff]
  simp [sameAllowed]

/-- Values without parts hold no functions. -/
theorem only_of_not_isComposite {value : Value} (plain : value.type.isComposite = false) :
    Only allowed value :=
  (match_sameAllowed_iff value).mp (.refl_of_not_isComposite plain)

/-- Functions are fit exactly when those of scripts among them are. -/
theorem forall_fits_iff {fit : Closure → Prop} (fs : List Function) :
    (∀ f ∈ fs, Fits fit (function f)) ↔ ∀ closure, .closure closure ∈ fs → fit closure := by
  -- A function that is of no script is fit for having nothing to be tested.
  constructor
  · exact fun fits closure member => fits _ member closure (by simp [closures])
  · intro fits f member closure inner
    cases f with
    | closure own =>
      rw [closures, List.mem_singleton] at inner
      exact inner ▸ fits own member
    | builtin | host => simp [closures] at inner

/-- A value is fit exactly when each function in it is. -/
theorem only_fits_iff {fit : Closure → Prop} (value : Value) :
    Only (fun f => Fits fit (function f)) value ↔ Fits fit value := by
  -- What is fit is told by the functions of scripts alone.
  rw [Only, forall_fits_iff]
  simp only [Fits, mem_closures_iff]

/-- Values in a row are fit exactly when each function in them is. -/
theorem allOnly_fits_iff {fit : Closure → Prop} (values : List Value) :
    AllOnly (fun f => Fits fit (function f)) values ↔ AllFit fit values := by
  rw [AllOnly, forall_fits_iff]
  simp only [AllFit, mem_allClosures_iff]

/-- An outcome that is alike on both sides yields only allowed functions. -/
theorem only_of_alike {ε : Type} {outcome : Except ε Value} {value : Value}
    (alike : Alike (Match (sameAllowed allowed)) outcome outcome)
    (yielded : outcome = .ok value) : Only allowed value := by
  -- The value matches itself by functions that are allowed.
  subst yielded
  exact (match_sameAllowed_iff value).mp alike

end Scriptlet.Value

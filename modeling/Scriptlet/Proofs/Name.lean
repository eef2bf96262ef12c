import Scriptlet.Interpreter
import Scriptlet.Proofs.Heap.Reach
import Scriptlet.Proofs.Text.Uppercase

/-!
Spellings of a name.

Main statement: two spellings that have the same capitals belong to one name, in whatever frame it
is bound, unless one of them has a title-case letter and no small letter: such a text is taken for a
canonical spelling, which it is not.
-/

namespace Scriptlet

namespace Name

/-- Whether a spelling is put into capitals: it has a small letter, or is in capitals anyway. -/
def Raised (text : String) : Prop :=
  (∃ c ∈ text.toList, Text.isLowercase c = true) ∨ ∀ c ∈ text.toList, Text.isTitle c = false

/-- Whether two spellings of the same capitals meet in one canonical spelling. -/
def Meet (left right : String) : Prop :=
  left = right ∨ Raised left ∧ Raised right

/-- The canonical spelling is in capitals just for the texts that are put into capitals. -/
theorem canonical_eq_uppercase_iff (text : String) :
    canonical text = Text.uppercase text ↔ Raised text := by
  -- A small letter in the text is what decides.
  unfold canonical Raised
  cases small : text.toList.any Text.isLowercase with
  | true =>
    have found : ∃ c ∈ text.toList, Text.isLowercase c = true := by simpa using small
    simp only [if_true, found, true_or]
  | false =>
    have none : ¬∃ c ∈ text.toList, Text.isLowercase c = true := by simpa using small
    simp only [Bool.false_eq_true, if_false, none, false_or]
    rw [eq_comm, Text.uppercase_eq_self_iff small]

/-- A text that is not put into capitals is left as it is. -/
theorem canonical_of_not_raised {text : String} (kept : ¬Raised text) : canonical text = text := by
  -- There is no small letter in it, so nothing is changed.
  refine canonical_of_all text (Bool.eq_false_iff.mpr fun small => kept (.inl ?_))
  simpa using small

variable {left right : String}

/-- Spellings of the same capitals belong to one name exactly if they meet. -/
theorem ofText_eq_iff (same : Text.uppercase left = Text.uppercase right) :
    ofText left = ofText right ↔ Meet left right := by
  -- What is left as it is would be the capitals only if it had been put into them.
  have other {kept raised : String} (keeps : ¬Raised kept) (raises : Raised raised)
      (same : Text.uppercase kept = Text.uppercase raised) : canonical kept ≠ canonical raised := by
    rw [(canonical_eq_uppercase_iff raised).mpr raises, ← same]
    exact fun equal => keeps ((canonical_eq_uppercase_iff kept).mp equal)
  simp only [ofText, Name.mk.injEq, Meet]
  by_cases raises : Raised left <;> by_cases raises' : Raised right
  · -- Both are put into capitals, which are the same.
    have equal : canonical left = canonical right := by
      rw [(canonical_eq_uppercase_iff left).mpr raises, same,
        (canonical_eq_uppercase_iff right).mpr raises']
    exact iff_of_true equal (.inr ⟨raises, raises'⟩)
  · -- Only the first is put into capitals; the other one would have to be in capitals already.
    refine iff_of_false (other raises' raises same.symm).symm ?_
    rintro (rfl | ⟨-, both⟩)
    · exact raises' raises
    · exact raises' both
  · -- Only the second is put into capitals.
    refine iff_of_false (other raises raises' same) ?_
    rintro (rfl | ⟨both, -⟩)
    · exact raises raises'
    · exact raises both
  · -- Both are left as they are, and meet only if they are one text.
    rw [canonical_of_not_raised raises, canonical_of_not_raised raises']
    exact ⟨.inl, fun meet => meet.elim id fun both => absurd both.1 raises⟩

end Name

namespace Heap

variable {heap : Heap} {frame : Nat} {name other : Name} {value : Value}

/-- A name that a frame binds itself has its value there. -/
theorem lookup_of_find? (found : heap.find? frame name = some value) :
    heap.lookup frame name = some value := by
  -- The frame itself is asked first.
  rw [lookup, found]

/-- Binding a name changes the value of no other one. -/
theorem lookup_bind_of_ne (differ : other ≠ name) (place : Nat) :
    (heap.bind place name value).lookup frame other = heap.lookup frame other := by
  -- No frame is excluded from where the search goes.
  have everywhere : (fun _ => True) frame := trivial
  refine lookup_congr (fun _ _ => trivial) (fun _ => parent?_bind ..) (fun _ => ?_) everywhere
  exact find?_bind_of_ne heap fun both => differ both.2

end Heap

namespace Interpreter

/--
Spellings with the same capitals share their bindings in every frame, if and only if they meet.

Where they do, what is bound under the one is found under the other, and to bind the other as well
is refused. Where they do not, the other one has the value and the freedom that it had before.
-/
theorem spellings_share {left right : String}
    (same : Text.uppercase left = Text.uppercase right) :
    (Name.ofText left = Name.ofText right ↔ Name.Meet left right) ∧
    ∀ (interpreter : Interpreter) (frame : Nat) (value other : Value),
      frame < interpreter.world.heap.next →
      (interpreter.bind frame (.ofText left) value).1 = true →
      let bound := (interpreter.bind frame (.ofText left) value).2
      (Name.Meet left right →
        bound.world.heap.lookup frame (.ofText right) = some value ∧
          (bound.bind frame (.ofText right) other).1 = false) ∧
      (¬Name.Meet left right →
        bound.world.heap.lookup frame (.ofText right) =
          interpreter.world.heap.lookup frame (.ofText right) ∧
        (bound.bind frame (.ofText right) other).1 =
          (interpreter.bind frame (.ofText right) other).1) := by
  -- Whether the spellings meet tells whether the names are one, and the rest is about names.
  have names := Name.ofText_eq_iff same
  refine ⟨names, fun interpreter frame value other there accepted => ⟨fun meet => ?_,
    fun apart => ?_⟩⟩
  · -- With one name, the first binding was accepted because the name was free, and it stands now.
    have free : interpreter.world.heap.find? frame (.ofText left) = none := by
      simpa [Interpreter.bind, Heap.binds] using accepted
    have found : (interpreter.world.heap.bind frame (.ofText left) value).find? frame
        (.ofText left) = some value := by
      rw [Heap.find?_bind_self _ there, free, Option.getD_none]
    rw [← names.mpr meet]
    simp [Interpreter.bind, Heap.binds, Heap.lookup_of_find? found, found]
  · -- With two names, the binding of the one leaves the other alone.
    have differ : Name.ofText right ≠ Name.ofText left := fun equal => apart (names.mp equal.symm)
    have kept : (interpreter.world.heap.bind frame (.ofText left) value).find? frame
        (.ofText right) = interpreter.world.heap.find? frame (.ofText right) :=
      Heap.find?_bind_of_ne _ fun both => differ both.2
    simp [Interpreter.bind, Heap.binds, Heap.lookup_bind_of_ne differ, kept]

/-- Next to a small letter a letter in title case is put into capitals like the small one. -/
theorem spellings_share_besideSmall :
    let interpreter := start { intrinsics := false } '.' []
    let bound := (interpreter.bind root (.ofText "\u01C5a") (.integer 1)).2
    Text.uppercase "\u01C5a" = Text.uppercase "\u01C6A" ∧
      Name.ofText "\u01C5a" = Name.ofText "\u01C6A" ∧
      root < interpreter.world.heap.next ∧
      (interpreter.bind root (.ofText "\u01C5a") (.integer 1)).1 = true ∧
      bound.world.heap.lookup root (.ofText "\u01C6A") = some (.integer 1) ∧
      (bound.bind root (.ofText "\u01C6A") (.integer 2)).1 = false := by
  intro interpreter bound
  have same : Text.uppercase "\u01C5a" = Text.uppercase "\u01C6A" := by decide +kernel
  -- Each of the spellings has a small letter in it.
  have meet : Name.Meet "\u01C5a" "\u01C6A" :=
    .inr ⟨.inl ⟨'a', by decide, by decide⟩, .inl ⟨'\u01C6', by decide, by decide +kernel⟩⟩
  have there : root < interpreter.world.heap.next := by decide
  have accepted : (interpreter.bind root (.ofText "\u01C5a") (.integer 1)).1 = true := by
    decide +kernel
  obtain ⟨names, shared⟩ := spellings_share same
  have both := (shared interpreter root (.integer 1) (.integer 2) there accepted).1 meet
  exact ⟨same, names.mpr meet, there, accepted, both⟩

/-- On its own it stays as it is, so that it is not found in its small form, which is free. -/
theorem not_spellings_share :
    let bound := ((start { intrinsics := false } '.' []).bind root (.ofText "\u01C5") (.integer 1)).2
    Text.uppercase "\u01C5" = Text.uppercase "\u01C6" ∧
      Name.ofText "\u01C5" ≠ Name.ofText "\u01C6" ∧
      bound.world.heap.lookup root (.ofText "\u01C6") = none ∧
      (bound.bind root (.ofText "\u01C6") (.integer 2)).1 = true := by
  decide +kernel

end Interpreter

end Scriptlet

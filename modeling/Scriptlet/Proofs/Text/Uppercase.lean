import Scriptlet.Text

/-!
What upper-casing changes.

Main statement: of the characters that are no small letters it changes those in title case and no
others, so that a text without small letters is in capitals exactly if it has none of those.
-/

namespace Scriptlet.Text

/-! Runs of code points within others. -/

namespace Stride

/-- Whether a run lies within another one, told by their ends and their steps. -/
def covers (outer inner : Stride) : Bool :=
  outer.first ≤ inner.first && inner.last ≤ outer.last &&
    (inner.first - outer.first) % outer.step == 0 &&
    (inner.first == inner.last || inner.step % outer.step == 0)

/-- What belongs to a run belongs to every run around it. -/
theorem holds_of_covers {outer inner : Stride} {point : Nat} (covers : outer.covers inner = true)
    (member : inner.holds point = true) : outer.holds point = true := by
  -- A run is told by its bounds and by the distances within it.
  simp only [Stride.covers, holds, Bool.and_eq_true, Bool.or_eq_true, decide_eq_true_eq,
    beq_iff_eq] at covers member ⊢
  obtain ⟨⟨⟨lower, upper⟩, offset⟩, alone | steps⟩ := covers
  · -- A run of one point has no other member.
    obtain rfl : point = inner.first := by omega
    exact ⟨⟨lower, by omega⟩, offset⟩
  · obtain ⟨⟨behind, before⟩, own⟩ := member
    have inside : outer.step ∣ point - inner.first :=
      Nat.dvd_trans (Nat.dvd_of_mod_eq_zero steps) (Nat.dvd_of_mod_eq_zero own)
    have whole : point - outer.first = (point - inner.first) + (inner.first - outer.first) := by
      omega
    refine ⟨⟨by omega, by omega⟩, Nat.mod_eq_zero_of_dvd ?_⟩
    rw [whole]
    exact Nat.dvd_add inside (Nat.dvd_of_mod_eq_zero offset)

end Stride

/-! What upper-casing changes. -/

/-- The code points of title-case letters, which are a capital with something small behind it. -/
def titlePoints : List Nat :=
  [0x1C5, 0x1C8, 0x1CB, 0x1F2, 0x1F88, 0x1F89, 0x1F8A, 0x1F8B, 0x1F8C, 0x1F8D, 0x1F8E, 0x1F8F,
   0x1F98, 0x1F99, 0x1F9A, 0x1F9B, 0x1F9C, 0x1F9D, 0x1F9E, 0x1F9F, 0x1FA8, 0x1FA9, 0x1FAA, 0x1FAB,
   0x1FAC, 0x1FAD, 0x1FAE, 0x1FAF, 0x1FBC, 0x1FCC, 0x1FFC]

/-- Whether a character is a title-case letter, which is neither a small letter nor a capital. -/
def isTitle (c : Char) : Bool :=
  titlePoints.contains c.toNat

/-- Every run that is mapped to other code points lies among the small letters, title case aside. -/
theorem uppercaseStrides_covered : ∀ entry ∈ uppercaseStrides,
    (∃ run ∈ lowercaseStrides, run.covers entry.1 = true) ∨
      (entry.1.first = entry.1.last ∧ titlePoints.contains entry.1.first = true) := by
  decide +kernel

/-- Every code point that becomes several is that of a small letter, title case aside. -/
theorem uppercaseExpansions_covered : ∀ entry ∈ uppercaseExpansions,
    (∃ run ∈ lowercaseStrides, run.holds entry.1 = true) ∨
      titlePoints.contains entry.1 = true := by
  decide +kernel

/-- A character that upper-casing changes is a small letter or a title-case letter. -/
theorem isLowercase_or_isTitle {c : Char} (changes : uppercaseChar c ≠ [c]) :
    isLowercase c = true ∨ isTitle c = true := by
  -- The tables of capitals are followed in the order in which they are looked up.
  unfold uppercaseChar at changes
  unfold isLowercase isTitle
  split at changes
  case isTrue ascii =>
    -- In ASCII, what is no small letter is its own capital.
    rw [if_pos ascii]
    refine .inl (Decidable.byContradiction fun capital => changes (congrArg (· :: []) ?_))
    unfold Char.toUpper
    refine dif_neg fun small => capital ?_
    exact (Bool.and_eq_true ..).mpr ⟨decide_eq_true small.1, decide_eq_true small.2⟩
  case isFalse wide =>
    simp only [if_neg wide, List.any_eq_true]
    unfold uppercaseWide at changes
    split at changes
    case h_1 points found =>
      obtain ⟨front, back, split, -⟩ := List.lookup_eq_some_iff.mp found
      exact uppercaseExpansions_covered (c.toNat, points) (by simp [split])
    case h_2 =>
      split at changes
      case h_2 => exact absurd rfl changes
      case h_1 run shift found =>
        have holds : run.holds c.toNat = true := by simpa using List.find?_some found
        rcases uppercaseStrides_covered _ (List.mem_of_find?_eq_some found) with
          ⟨outer, listed, covers⟩ | ⟨alone, title⟩
        · exact .inl ⟨outer, listed, Stride.holds_of_covers covers holds⟩
        · have bounds := Stride.bounds_of_holds holds
          have first : run.first = c.toNat := by
            simp only at alone
            omega
          exact .inr (first ▸ title)

/-- A title-case letter is changed. -/
theorem uppercaseChar_ne_of_isTitle {c : Char} (title : isTitle c = true) :
    uppercaseChar c ≠ [c] := by
  -- There are few such letters, and each of them is looked at.
  have each : ∀ point ∈ titlePoints, uppercaseChar (Char.ofNat point) ≠ [Char.ofNat point] := by
    decide +kernel
  simpa using each c.toNat (by simpa [isTitle] using title)

/-- No character vanishes. -/
theorem uppercaseChar_ne_nil (c : Char) : uppercaseChar c ≠ [] := by
  -- The only characters that could vanish are those with an entry of their own.
  have several : ∀ entry ∈ uppercaseExpansions, entry.2 ≠ [] := by decide +kernel
  unfold uppercaseChar uppercaseWide
  split
  · simp
  · split
    case h_1 points found =>
      obtain ⟨front, back, split, -⟩ := List.lookup_eq_some_iff.mp found
      simpa using several (c.toNat, points) (by simp [split])
    case h_2 => split <;> simp

/-- Where nothing vanishes, a row that stays as it is does so item by item. -/
theorem flatMap_eq_self_iff {α : Type} {change : α → List α} (kept : ∀ item, change item ≠ [])
    (items : List α) : items.flatMap change = items ↔ ∀ item ∈ items, change item = [item] := by
  constructor
  · have grows (row : List α) : row.length ≤ (row.flatMap change).length := by
      induction row with
      | nil => simp
      | cons item rest ih =>
        have := List.length_pos_iff.mpr (kept item)
        simp only [List.flatMap_cons, List.length_append, List.length_cons]
        omega
    intro same
    induction items with
    | nil => simp
    | cons item rest ih =>
      -- Were the first item to become several, the whole row would be longer than it is.
      rw [List.flatMap_cons] at same
      have lengths := congrArg List.length same
      have one : (change item).length = 1 := by
        have := grows rest
        have := List.length_pos_iff.mpr (kept item)
        simp only [List.length_append, List.length_cons] at lengths
        omega
      obtain ⟨only, alone⟩ := List.length_eq_one_iff.mp one
      rw [alone, List.singleton_append, List.cons.injEq] at same
      rw [List.forall_mem_cons, alone, same.1]
      exact ⟨rfl, ih same.2⟩
  · intro still
    induction items with
    | nil => rfl
    | cons item rest ih =>
      rw [List.forall_mem_cons] at still
      rw [List.flatMap_cons, still.1, ih still.2, List.singleton_append]

/-- A text without small letters is in capitals exactly if it has no title-case letters. -/
theorem uppercase_eq_self_iff {text : String} (capital : text.toList.any isLowercase = false) :
    uppercase text = text ↔ ∀ c ∈ text.toList, isTitle c = false := by
  rw [uppercase, ← String.toList_inj, String.toList_ofList,
    flatMap_eq_self_iff uppercaseChar_ne_nil]
  -- The question is put to each character, none of which is a small letter.
  refine forall₂_congr fun c member => ?_
  have small : isLowercase c = false := by simpa using List.any_eq_false.mp capital c member
  constructor
  · intro still
    rw [Bool.eq_false_iff]
    exact fun title => uppercaseChar_ne_of_isTitle title still
  · intro plain
    refine Decidable.byContradiction fun changes => ?_
    rcases isLowercase_or_isTitle changes with found | found
    · rw [small] at found
      cases found
    · rw [plain] at found
      cases found

end Scriptlet.Text

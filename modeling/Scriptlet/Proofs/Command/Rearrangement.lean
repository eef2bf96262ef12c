import Mathlib.Data.List.Perm.Basic
import Scriptlet.Proofs.Build.Real
import Scriptlet.Proofs.Command.Arguments
import Scriptlet.Proofs.Decimal.Magnitude

/-!
The order of arguments.

Main statement: arguments that are put in another order ask for the same, or for nothing as before,
as long as flags of one kind stay in order among themselves.
-/

namespace Scriptlet.Command

/-! Arguments in another order. -/

/-- Whether arguments are others in another order, in which flags of one kind are as before. -/
structure Rearranged (before after : List String) : Prop where
  /-- No argument is lost, and none is new. -/
  perm : after.Perm before
  /-- The flags that start with the same word keep their order. -/
  order : ∀ word ∈ valueFlags.map Prod.fst,
    (after.filter fun text => (behind? word text).isSome) =
      before.filter fun text => (behind? word text).isSome

/-- Arguments that have been put in another order may be put back. -/
theorem Rearranged.symm {before after : List String} (rearranged : Rearranged before after) :
    Rearranged after before where
  perm := rearranged.perm.symm
  order word listed := (rearranged.order word listed).symm

/-- What arguments give for a flag is given by those that start with its word. -/
theorem flagValues_filter (word : String) (arguments : List String) :
    flagValues word (arguments.filter fun text => (behind? word text).isSome) =
      flagValues word arguments := by
  -- All other arguments give no value for the flag.
  rw [flagValues, flagValues, List.filterMap_filter]
  refine List.filterMap_congr fun text _ => ?_
  cases found : behind? word text <;> simp

/-- A row of one thing at most has no other order. -/
theorem eq_of_perm_toList {α : Type} {row : List α} {only : Option α}
    (perm : row.Perm only.toList) : row = only.toList := by
  -- In a row of one there is nothing to exchange.
  cases only with
  | none => exact List.perm_nil.mp perm
  | some item => exact List.perm_singleton.mp perm

/-- In another order arguments make the same of a draft. -/
theorem Draft.Gathers.rearranged {before after : List String} {next : Draft}
    (gathers : Gathers (before.map .ofText) {} next) (rearranged : Rearranged before after) :
    Gathers (after.map .ofText) {} next := by
  -- What counts of the arguments is the same in either order, for each kind of them.
  have perm : (after.map Argument.ofText).Perm (before.map Argument.ofText) :=
    rearranged.perm.map _
  have values (word : String) (listed : word ∈ valueFlags.map Prod.fst) :
      Argument.values word (after.map .ofText) = Argument.values word (before.map .ofText) := by
    rw [Argument.values_map_ofText listed, Argument.values_map_ofText listed,
      ← flagValues_filter word after, rearranged.order word listed, flagValues_filter]
  have contains (argument : Argument) : (after.map Argument.ofText).contains argument =
      (before.map Argument.ofText).contains argument := by
    rw [Bool.eq_iff_iff, List.contains_iff_mem, List.contains_iff_mem, perm.mem_iff]
  -- There is one path at most, so that it is the same one wherever it stands.
  have paths := perm.filterMap Argument.path?
  rw [← List.nil_append (List.filterMap _ (before.map _))] at paths
  exact
    { builder := by rw [values "--builder=" (by decide), gathers.builder]
      places := by rw [values "--precision=" (by decide), gathers.places]
      tolerance := by rw [values "--tolerance=" (by decide), gathers.tolerance]
      depth := by rw [values "--max-depth=" (by decide), gathers.depth]
      separator := by rw [values "--decimal-separator=" (by decide), gathers.separator]
      bindings := by rw [values "--bind=" (by decide), gathers.bindings]
      intrinsics := by rw [contains, gathers.intrinsics]
      json := by rw [contains, gathers.json]
      path := (eq_of_perm_toList (paths.trans (.of_eq gathers.path.symm))).symm
      known := by rw [perm.any_eq, gathers.known] }

/-! Numbers. -/

/-- Whether the numbers of options can be compared: none of them is the one that equals nothing. -/
structure WithoutNaN (options : RunOptions) : Prop where
  /-- The tolerance can. -/
  tolerance : options.settings.tolerance.isNaN = false
  /-- The real numbers that names are bound to can. -/
  bindings : ∀ binding ∈ options.bindings, ∀ x, binding.value = .real x → x.isNaN = false

/-- What is read as a real number is a number, whatever separates. -/
theorem isNaN_of_readReal {separator : Char} {chars : List Char} {x : Float}
    (read : Decimal.readReal separator chars = .ok x) : x.isNaN = false := by
  -- Behind its signs it is a numeral, which is nearest to what it denotes and so is a number.
  obtain ⟨normal, -, signed⟩ := Decimal.readReal_normal.mp read
  obtain ⟨written, -, -, rfl⟩ := (Decimal.readSigned?_eq_some_iff true).mp signed
  exact written.nearest_double.2.number

/-- The value of a binding is that of some constant. -/
theorem value_of_readBinding {separator : Char} {text : String} {binding : Binding}
    (read : readBinding separator text = .ok binding) :
    ∃ constant, binding.value = (readConstant separator constant).2 := by
  -- Only where the binding has a sign and a name is there a value.
  simp only [readBinding] at read
  split at read
  · cases read
  · split at read <;> cases read
    exact ⟨_, rfl⟩

/-- Where a constant is a real number, it is a number. -/
theorem isNaN_of_readConstant {separator : Char} {text : String} {x : Float}
    (real : (readConstant separator text).2 = .real x) : x.isNaN = false := by
  -- Only the second kind of constant is a real number.
  unfold readConstant at real
  split at real
  · cases real
  · split at real
    case h_1 y read =>
      cases real
      exact isNaN_of_readReal read
    case h_2 => split at real <;> cases real

/-- Bindings that are read can be compared. -/
theorem isNaN_of_readBindings {separator : Char} {texts : List String} {bindings : List Binding}
    (read : readBindings separator texts = .ok bindings) :
    ∀ binding ∈ bindings, ∀ x, binding.value = .real x → x.isNaN = false := by
  -- By induction on the texts; each binding has a constant of its own.
  induction texts generalizing bindings with
  | nil =>
    cases read
    nofun
  | cons text rest ih =>
    obtain ⟨binding, first, more⟩ := bind_eq_ok.mp read
    obtain ⟨others, later, made⟩ := bind_eq_ok.mp more
    cases made
    obtain ⟨constant, value⟩ := value_of_readBinding first
    exact List.forall_mem_cons.mpr
      ⟨fun x real => isNaN_of_readConstant (value.symm.trans real), ih later⟩

/-- A tolerance that is read is a number. -/
theorem isNaN_of_readTolerance {text : String} {x : Float} (read : readTolerance text = .ok x) :
    x.isNaN = false := by
  -- It has been asked whether the number is finite.
  unfold readTolerance at read
  split at read
  case h_2 => cases read
  case h_1 =>
    split at read
    case isFalse => cases read
    case isTrue accepted =>
      -- What is finite is a number.
      cases read
      exact (Decimal.isFinite_iff.mp ((Bool.and_eq_true ..).mp accepted).1).1

/-- Options that are read can be compared. -/
theorem withoutNaN_of_readRunOptions {arguments : List String} {options : RunOptions}
    (read : readRunOptions arguments = .ok options) : WithoutNaN options := by
  -- Tolerance and bindings are all the numbers that options hold.
  obtain ⟨draft, added, finished⟩ := bind_eq_ok.mp read
  have gathers := Draft.addAll_eq_ok_iff.mp added
  have standing : (Draft.settings {}).tolerance.isNaN = false := by decide
  have tolerance := holds_of_settle (Float.isNaN · = false) standing
    (fun _ _ => isNaN_of_readTolerance) gathers.tolerance
  unfold Draft.finish at finished
  split at finished
  · cases finished
  · obtain ⟨bindings, found, made⟩ := bind_eq_ok.mp finished
    cases made
    exact ⟨tolerance, isNaN_of_readBindings found⟩

/--
The order of arguments does not matter, as long as flags of one kind keep theirs.

The options are the same ones, and none of the numbers in them is the one that equals nothing, so
that they are also equal where doubles are compared. Arguments that are refused are refused in any
such order.
-/
theorem readRunOptions_rearranged {before after : List String}
    (rearranged : Rearranged before after) (options : RunOptions) :
    (readRunOptions before = .ok options → readRunOptions after = .ok options ∧
      WithoutNaN options) ∧
    (readRunOptions after = .ok options → readRunOptions before = .ok options) := by
  have same {before after : List String} (rearranged : Rearranged before after)
      (read : readRunOptions before = .ok options) : readRunOptions after = .ok options := by
    obtain ⟨draft, added, finished⟩ := bind_eq_ok.mp read
    -- The draft is the same, and bindings are read from it when it is finished.
    have gathers := (Draft.addAll_eq_ok_iff.mp added).rearranged rearranged
    exact bind_eq_ok.mpr ⟨draft, Draft.addAll_eq_ok_iff.mpr gathers, finished⟩
  exact ⟨fun read => ⟨same rearranged read, withoutNaN_of_readRunOptions read⟩,
    same rearranged.symm⟩

/-- A separator may be given behind the bindings that it is for, or in front of them. -/
theorem readRunOptions_rearranged_separator :
    let before := ["--bind=x=1,5", "p.json", "--decimal-separator=,", "--bind=y=2", "--json"]
    let after := ["--json", "--decimal-separator=,", "--bind=x=1,5", "--bind=y=2", "p.json"]
    Rearranged before after ∧ ∃ options, options.bindings.map Binding.name = ["x", "y"] ∧
      options.bindings.map Binding.type = [.real, .integer] ∧
      readRunOptions before = .ok options ∧ readRunOptions after = .ok options := by
  intro before after
  have rearranged : Rearranged before after := ⟨by decide, by decide⟩
  obtain ⟨options, read, names, types⟩ : ∃ options, readRunOptions before = .ok options ∧
      options.bindings.map Binding.name = ["x", "y"] ∧
      options.bindings.map Binding.type = [.real, .integer] := by
    refine ⟨_, rfl, ?_, ?_⟩ <;> decide +kernel
  exact ⟨rearranged, options, names, types, read,
    ((readRunOptions_rearranged rearranged options).1 read).1⟩

end Scriptlet.Command

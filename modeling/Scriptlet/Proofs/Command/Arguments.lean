import Mathlib.Data.List.Infix
import Mathlib.Tactic.MkIffOfInductiveProp
import Scriptlet.Command.Options
import Scriptlet.Proofs.Outcome

/-!
What the arguments of a run ask for, wherever among them a flag stands.

Main statement: the bindings that are read are those of all flags for bindings, in their order; the
separator is that of the last flag for it; and the library is there unless a flag says otherwise.
-/

namespace Scriptlet.Command

/-- A text starts with a word exactly if something follows it. -/
theorem dropWord?_eq_some_iff {word text rest : List Char} :
    dropWord? word text = some rest ↔ text = word ++ rest := by
  -- Character by character; the word has to last no longer than the text.
  induction word generalizing text with
  | nil => simp [dropWord?]
  | cons c word ih =>
    cases text with
    | nil => simp [dropWord?]
    | cons d text =>
      by_cases same : c = d
      · subst same
        simp [dropWord?, ih]
      · simp [dropWord?, same, Ne.symm same]

/-- What follows a word, if a text starts with it. -/
def behind? (word text : String) : Option String :=
  (dropWord? word.toList text.toList).map String.ofList

/-- What follows a word is the text without it. -/
theorem behind?_eq_some_iff {word text rest : String} :
    behind? word text = some rest ↔ text = word ++ rest := by
  -- The characters tell it, and a text is its characters.
  simp only [behind?, Option.map_eq_some_iff, dropWord?_eq_some_iff]
  constructor
  · rintro ⟨chars, whole, rfl⟩
    exact String.ext (by simpa using whole)
  · rintro rfl
    exact ⟨rest.toList, by simp, by simp⟩

/-- The values that arguments give for a flag, in order. -/
def flagValues (word : String) (arguments : List String) : List String :=
  arguments.filterMap (behind? word)

/-! How arguments are told apart. -/

namespace Argument

/-- The word that a flag with a value starts with, and the value. -/
def valued? : Argument → Option (String × String)
  | builder text => some ("--builder=", text)
  | places text => some ("--precision=", text)
  | tolerance text => some ("--tolerance=", text)
  | depth text => some ("--max-depth=", text)
  | separator text => some ("--decimal-separator=", text)
  | binding text => some ("--bind=", text)
  | noIntrinsics | json | unknown _ | plain _ => none

/-- The value of a flag, if an argument is one. -/
def value? (word : String) (argument : Argument) : Option String :=
  argument.valued?.bind fun (found, text) => if found = word then some text else none

/-- Each flag of the table has its own word and the value that it is made with. -/
theorem valued?_of_mem {flag : String × (String → Argument)} (listed : flag ∈ valueFlags)
    (text : String) : (flag.2 text).valued? = some (flag.1, text) := by
  -- There are six flags, and each of them is made by its own constructor.
  simp only [valueFlags, List.mem_cons, List.not_mem_nil, or_false] at listed
  rcases listed with rfl | rfl | rfl | rfl | rfl | rfl <;> rfl

/-- No word of a flag starts with another one. -/
theorem eq_of_append_eq {word word' rest rest' : String} (listed : word ∈ valueFlags.map Prod.fst)
    (listed' : word' ∈ valueFlags.map Prod.fst) (same : word ++ rest = word' ++ rest') :
    word = word' := by
  have apart : ∀ word ∈ valueFlags.map Prod.fst, ∀ word' ∈ valueFlags.map Prod.fst,
      word.toList <+: word'.toList → word = word' := by
    decide
  have chars : word.toList ++ rest.toList = word'.toList ++ rest'.toList := by
    simpa using congrArg String.toList same
  -- Of two words that one text starts with, the longer one starts with the other.
  have front : word'.toList <+: word.toList ++ rest.toList := chars ▸ List.prefix_append ..
  rcases List.prefix_or_prefix_of_prefix (List.prefix_append ..) front with shorter | longer
  · exact apart word listed word' listed' shorter
  · exact (apart word' listed' word listed longer).symm

/-- A flag that has been found is listed, with what follows its word. -/
theorem exists_of_valueFlag? {text : String} {argument : Argument}
    -- The first entry that fits is an entry of the table.
    (found : valueFlag? text = some argument) :
    ∃ flag ∈ valueFlags, ∃ rest, text = flag.1 ++ rest ∧ argument = flag.2 rest := by
  obtain ⟨flag, member, made⟩ := List.exists_of_findSome?_eq_some found
  obtain ⟨chars, parted, rfl⟩ := Option.map_eq_some_iff.mp made
  have follows : behind? flag.1 text = some (String.ofList chars) := by simp [behind?, parted]
  exact ⟨flag, member, _, behind?_eq_some_iff.mp follows, rfl⟩

/-- Where no flag is found, the text starts with no word of the list. -/
theorem ne_append_of_valueFlag? {word text : String} (missing : valueFlag? text = none)
    (listed : word ∈ valueFlags.map Prod.fst) (rest : String) : text ≠ word ++ rest := by
  -- The entry with that word would have been found.
  intro whole
  obtain ⟨flag, member, rfl⟩ := List.mem_map.mp listed
  have nothing := List.findSome?_eq_none_iff.mp missing flag member
  obtain ⟨chars, parted, -⟩ := Option.map_eq_some_iff.mp (behind?_eq_some_iff.mpr whole)
  simp [parted] at nothing

/-- A flag with a value is known by the word that it starts with. -/
theorem valued?_ofText_iff {word text rest : String} (listed : word ∈ valueFlags.map Prod.fst) :
    (ofText text).valued? = some (word, rest) ↔ text = word ++ rest := by
  -- The text is a flag with a value, or it is an argument of another kind.
  cases found : valueFlag? text with
  | none =>
    -- No argument of another kind has a value.
    have plain : (ofText text).valued? = none := by
      simp only [ofText, found]
      repeat' split
      all_goals rfl
    exact iff_of_false (by simp [plain]) (ne_append_of_valueFlag? found listed rest)
  | some argument =>
    obtain ⟨flag, member, behind, whole, rfl⟩ := exists_of_valueFlag? found
    have known : flag.1 ∈ valueFlags.map Prod.fst := List.mem_map_of_mem member
    simp only [ofText, found, valued?_of_mem member, Option.some.injEq, Prod.mk.injEq]
    constructor
    · rintro ⟨rfl, rfl⟩
      exact whole
    · -- The text starts with both words, which therefore are one.
      intro whole'
      have same := eq_of_append_eq known listed (whole.symm.trans whole')
      rw [whole, same] at whole'
      exact ⟨same, (String.append_right_inj word).mp whole'⟩

/-- The value that an argument gives for a flag is what follows the word of the flag. -/
theorem value?_ofText {word : String} (listed : word ∈ valueFlags.map Prod.fst) (text : String) :
    (ofText text).value? word = behind? word text := by
  ext rest
  rw [behind?_eq_some_iff, ← valued?_ofText_iff listed]
  unfold value?
  -- The argument has a value for some flag, or it has none.
  cases (ofText text).valued? with
  | none => simp
  | some flag => simp [Prod.ext_iff]

/-- The flag against the library is spelled in one way. -/
theorem ofText_eq_noIntrinsics_iff {text : String} :
    ofText text = noIntrinsics ↔ text = "--no-intrinsics" := by
  -- The text is looked up among the flags with values first, and those are passed over.
  constructor
  · intro found
    unfold ofText at found
    split at found
    case h_1 flag valued =>
      -- A flag with a value is not this one, which has none.
      subst found
      obtain ⟨flag, member, rest, -, same⟩ := exists_of_valueFlag? valued
      have := valued?_of_mem member rest
      rw [← same] at this
      cases this
    case h_2 =>
      split at found
      case isTrue same => exact beq_iff_eq.mp same
      case isFalse =>
        split at found
        · cases found
        split at found <;> cases found
  · rintro rfl
    decide

end Argument

/-! How arguments are taken up, one kind of them after the other. -/

namespace Argument

/-- The values that arguments give for a flag, in order. -/
def values (word : String) (arguments : List Argument) : List String :=
  arguments.filterMap (value? word)

/-- The text of an argument that is no flag. -/
def path? : Argument → Option String
  | plain text => some text
  | _ => none

/-- Whether an argument is a flag that does not exist. -/
def isUnknown : Argument → Bool
  | unknown _ => true
  | _ => false

/-- The values of an argument come in front of those of all others. -/
theorem values_cons (word : String) (argument : Argument) (rest : List Argument) :
    values word (argument :: rest) = (argument.value? word).toList ++ values word rest := by
  -- The argument gives one value or none.
  cases given : argument.value? word <;> simp [values, given]

/-- The path of an argument comes in front of those of all others. -/
theorem paths_cons (argument : Argument) (rest : List Argument) :
    (argument :: rest).filterMap path? = argument.path?.toList ++ rest.filterMap path? := by
  -- The argument is a path, or it is a flag.
  cases given : argument.path? <;> simp [given]

/-- The values of a flag are those that follow its word in the texts of the arguments. -/
theorem values_map_ofText {word : String} (listed : word ∈ valueFlags.map Prod.fst)
    (texts : List String) : values word (texts.map ofText) = flagValues word texts := by
  -- Argument by argument, the value is the same.
  simp only [values, flagValues, List.filterMap_map]
  exact List.filterMap_congr fun text _ => value?_ofText listed text

end Argument

/-- The last of some values, all of which have to be read, or what stands if there are none. -/
def settle {α : Type} (read : String → Except UsageFault α) (standing : α) (values : List String) :
    Except UsageFault α :=
  values.foldlM (fun _ text => read text) standing

/-- A further value replaces what stands, once it has been read. -/
theorem settle_cons {α : Type} (read : String → Except UsageFault α) (standing : α) (text : String)
    (rest : List String) : settle read standing (text :: rest) = (do
      let found ← read text
      settle read found rest) := rfl

/-- What is settled has been read, or it has been standing all along. -/
theorem holds_of_settle {α : Type} {read : String → Except UsageFault α} (holds : α → Prop)
    {standing found : α} {values : List String} (stands : holds standing)
    (reads : ∀ text value, read text = .ok value → holds value)
    (settled : settle read standing values = .ok found) : holds found := by
  -- By induction on the values; what stands is always the last one that has been read.
  induction values generalizing standing with
  | nil =>
    cases settled
    exact stands
  | cons text rest ih =>
    obtain ⟨value, here, later⟩ := bind_eq_ok.mp (settle_cons read standing text rest ▸ settled)
    exact ih (reads text value here) later

namespace Draft

/-- What arguments make of a draft, each kind of them on its own. -/
@[mk_iff]
structure Gathers (arguments : List Argument) (draft next : Draft) : Prop where
  /-- The builder is the last one given. -/
  builder : settle readBuilder draft.builder (Argument.values "--builder=" arguments) =
    .ok next.builder
  /-- The number of places is the last one given. -/
  places : settle readPlaces draft.settings.places (Argument.values "--precision=" arguments) =
    .ok next.settings.places
  /-- The tolerance is the last one given. -/
  tolerance : settle readTolerance draft.settings.tolerance
    (Argument.values "--tolerance=" arguments) = .ok next.settings.tolerance
  /-- The limit of calls is the last one given. -/
  depth : settle (fun text => (readDepth text).map some) draft.settings.maxDepth
    (Argument.values "--max-depth=" arguments) = .ok next.settings.maxDepth
  /-- The separator is the last one given. -/
  separator : settle readSeparator draft.separator
    (Argument.values "--decimal-separator=" arguments) = .ok next.separator
  /-- The bindings are put behind those before. -/
  bindings : next.bindings = draft.bindings ++ Argument.values "--bind=" arguments
  /-- The library is taken away by its flag. -/
  intrinsics : next.settings.intrinsics =
    (draft.settings.intrinsics && !arguments.contains .noIntrinsics)
  /-- The report is in JSON if a flag says so. -/
  json : next.json = (draft.json || arguments.contains .json)
  /-- There is one path at most. -/
  path : next.path.toList = draft.path.toList ++ arguments.filterMap Argument.path?
  /-- All flags exist. -/
  known : arguments.any Argument.isUnknown = false

/-- No arguments leave a draft as it is. -/
theorem gathers_nil {draft next : Draft} : Gathers [] draft next ↔ draft = next := by
  constructor
  -- Field by field, what is gathered from nothing is what has been there.
  · intro gathers
    obtain ⟨path, builder, ⟨tolerance, places, depth, intrinsics⟩, separator, bindings, json⟩ :=
      draft
    obtain ⟨path', builder', ⟨tolerance', places', depth', intrinsics'⟩, separator', bindings',
      json'⟩ := next
    have same : path = path' := by
      have := gathers.path
      cases path <;> cases path' <;> simp_all
    have := gathers.builder
    simp_all [gathers_iff, settle, Argument.values]
  · rintro rfl
    simp [gathers_iff, settle, Argument.values]

/-- An argument changes one thing of a draft, if it is taken up at all. -/
theorem gathers_cons {argument : Argument} {rest : List Argument} {draft next : Draft} :
    Gathers (argument :: rest) draft next ↔
      ∃ between, draft.add argument = .ok between ∧ Gathers rest between next := by
  -- Each field is gathered on its own, and an argument has a part in one of them.
  simp only [gathers_iff, Argument.values_cons, Argument.paths_cons, List.any_cons]
  cases argument with
  | plain text =>
    cases path : draft.path with
    | none =>
      simp [add, Argument.value?, Argument.valued?, Argument.path?, Argument.isUnknown, path]
    | some first =>
      -- There is no room for a second path.
      have many (last : Option String) :
          last.toList ≠ first :: text :: rest.filterMap Argument.path? := by
        cases last <;> simp
      simp [add, Argument.path?, path, many]
  | binding text | noIntrinsics | json | unknown text =>
    simp [add, Argument.value?, Argument.valued?, Argument.path?, Argument.isUnknown]
  | builder text | places text | tolerance text | depth text | separator text =>
    -- The value is read now, and what it was before no longer counts.
    simp [add, Argument.value?, Argument.valued?, Argument.path?, Argument.isUnknown, settle_cons,
      bind_eq_ok, map_eq_ok]
    grind

/-- Taking up arguments in order is gathering them by kinds. -/
theorem addAll_eq_ok_iff {texts : List String} {draft next : Draft} :
    draft.addAll texts = .ok next ↔ Gathers (texts.map .ofText) draft next := by
  induction texts generalizing draft with
  -- Arguments are added from the first one on, as the draft that they make is handed on.
  | nil => simp [addAll, gathers_nil]
  | cons text rest ih =>
    rw [addAll, bind_eq_ok, List.map_cons, gathers_cons]
    exact exists_congr fun between => and_congr_right fun _ => ih

end Draft

/-! What is asked for. -/

/-- The separator that is settled is that of the last flag for it, if there is one. -/
theorem separator_of_settle {standing found : Char} {values : List String}
    (settled : settle readSeparator standing values = .ok found) :
    [found] = (values.getLast?.getD (.singleton standing)).toList := by
  -- The last value stands in the end, and without any the one that has been there.
  induction values generalizing standing with
  | nil =>
    cases settled
    simp
  | cons text rest ih =>
    obtain ⟨between, here, later⟩ := bind_eq_ok.mp (settle_cons _ standing text rest ▸ settled)
    -- A text that is read as a separator is the text of that one character.
    have single : String.singleton between = text := by
      unfold readSeparator at here
      split at here
      case h_1 c same =>
        cases here
        exact String.ext (by simp [same])
      case h_2 => cases here
    rw [ih later, single, List.getLast?_cons, Option.getD_some]

/-- What the options of a run take from its arguments, as far as bindings are concerned. -/
structure Asks (arguments : List String) (options : RunOptions) : Prop where
  /-- All flags for bindings are read, in their order and with the separator of the options. -/
  bindings : readBindings options.separator (flagValues "--bind=" arguments) = .ok options.bindings
  /-- The separator is that of the last flag for it. -/
  separator : [options.separator] =
    ((flagValues "--decimal-separator=" arguments).getLast?.getD ".").toList
  /-- The library is there unless a flag takes it away. -/
  intrinsics : options.settings.intrinsics = !arguments.contains "--no-intrinsics"

/-- It does not matter where among the arguments a flag stands. -/
theorem asks_of_readRunOptions {arguments : List String} {options : RunOptions}
    (read : readRunOptions arguments = .ok options) : Asks arguments options := by
  obtain ⟨draft, added, finished⟩ := bind_eq_ok.mp read
  have gathers := Draft.addAll_eq_ok_iff.mp added
  -- Bindings are read only now, when all flags have been taken up.
  unfold Draft.finish at finished
  split at finished
  case h_1 => cases finished
  case h_2 path given =>
    obtain ⟨bindings, found, made⟩ := bind_eq_ok.mp finished
    cases made
    refine ⟨?_, ?_, ?_⟩
    · -- The texts of the bindings are gathered in order.
      rw [gathers.bindings, Argument.values_map_ofText (by decide)] at found
      exact found
    · -- The separator is the one that stands in the end.
      rw [← Argument.values_map_ofText (by decide)]
      exact separator_of_settle gathers.separator
    · -- The flag is there as an argument exactly if its text is.
      have same : (arguments.map Argument.ofText).contains .noIntrinsics =
          arguments.contains "--no-intrinsics" := by
        rw [Bool.eq_iff_iff, List.contains_iff_mem, List.contains_iff_mem, List.mem_map]
        simp only [Argument.ofText_eq_noIntrinsics_iff, exists_eq_right]
      rw [gathers.intrinsics, same]
      rfl

end Scriptlet.Command

import MeshControl.Proofs.Config.Loading
import MeshControl.Proofs.Text.Trimming

/-!
Which registries a list of them names.

People write such a list by hand, so there is more than one text for the same names: blanks may stand
around every name, and items that are blank throughout name nothing. A text and the names are compared
item by item. The comma that separates items is no blank and is in no name, so a text that was put
together from items is cut into the same items again.

What is read out of any text are names of which a list can be made, and the plain list of them is one
of its texts.

Main statement: `Config.ofVariables_registries`.
-/

namespace MeshControl

/-! ## Items -/

namespace Text

/-- A name that can stand in a list: there is something to it, it has no comma, and it neither begins
nor ends with a blank. -/
structure IsListable (name : List Char) : Prop where
  filled : name ≠ []
  undivided : ',' ∉ name
  bare : IsBare name

/-- Items that give a list of names in its order, among items that are blank. -/
inductive SpellsList : List (List Char) → List (List Char) → Prop where
  | nil : SpellsList [] []
  | blank {names items : List (List Char)} {item : List Char} :
      AllBlank item → SpellsList names items → SpellsList names (item :: items)
  | name {names items : List (List Char)} {name item : List Char} :
      IsPadded name item → SpellsList names items → SpellsList (name :: names) (item :: items)

/-- Every list of names is spelled by the names themselves. -/
theorem spellsList_self (names : List (List Char)) : SpellsList names names := by
  induction names with
  | nil => exact .nil
  | cons name rest inductionHypothesis =>
      have plain : IsPadded name name :=
        ⟨[], [], List.forall_mem_nil _, List.forall_mem_nil _, (List.append_nil _).symm⟩
      exact .name plain inductionHypothesis

/-- The names that trimming leaves of some items are spelled by these items. -/
theorem spellsList_filter (items : List (List Char)) :
    SpellsList ((items.map trim).filter fun name => !name.isEmpty) items := by
  induction items with
  | nil => exact .nil
  | cons item rest inductionHypothesis =>
      rw [List.map_cons]
      by_cases blank : AllBlank item
      · have dropped : trim item = [] := trim_eq_nil_iff.mpr blank
        rw [List.filter_cons_of_neg (by simp [dropped])]
        exact .blank blank inductionHypothesis
      · have kept : trim item ≠ [] := mt trim_eq_nil_iff.mp blank
        rw [List.filter_cons_of_pos (by simpa using kept)]
        exact .name (isPadded_trim item) inductionHypothesis

theorem SpellsList.filter_eq {names items : List (List Char)} (spelled : SpellsList names items)
    (listable : ∀ name ∈ names, IsListable name) :
    ((items.map trim).filter fun name => !name.isEmpty) = names := by
  induction spelled with
  | nil => rfl
  | blank blank _ inductionHypothesis =>
      have dropped := trim_eq_nil_iff.mpr blank
      rw [List.map_cons, List.filter_cons_of_neg (by simp [dropped])]
      exact inductionHypothesis listable
  | name padded _ inductionHypothesis =>
      rcases List.forall_mem_cons.mp listable with ⟨first, others⟩
      have kept := (trim_eq_iff first.filled first.bare).mpr padded
      rw [List.map_cons, kept, List.filter_cons_of_pos (by simpa using first.filled),
        inductionHypothesis others]

theorem comma_not_mem_of_allBlank {text : List Char} (blank : AllBlank text) : ',' ∉ text := by
  intro member
  have : isBlank ',' = true := blank ',' member
  revert this
  decide

theorem SpellsList.comma_not_mem {names items : List (List Char)}
    (spelled : SpellsList names items) (listable : ∀ name ∈ names, IsListable name) :
    ∀ item ∈ items, ',' ∉ item := by
  induction spelled with
  | nil => exact List.forall_mem_nil _
  | blank blank _ inductionHypothesis =>
      exact List.forall_mem_cons.mpr ⟨comma_not_mem_of_allBlank blank, inductionHypothesis listable⟩
  | name padded _ inductionHypothesis =>
      rcases List.forall_mem_cons.mp listable with ⟨first, others⟩
      rcases padded with ⟨front, back, blankFront, blankBack, rfl⟩
      refine List.forall_mem_cons.mpr ⟨?_, inductionHypothesis others⟩
      simp only [List.mem_append, not_or]
      exact ⟨⟨comma_not_mem_of_allBlank blankFront, first.undivided⟩,
        comma_not_mem_of_allBlank blankBack⟩

/-- A list that is put together from items is read as the names that the items give. -/
theorem listedNames_intercalate {names items : List (List Char)}
    (spelled : SpellsList names items) (listable : ∀ name ∈ names, IsListable name) :
    listedNames ([','].intercalate items) = names := by
  by_cases empty : items = []
  · subst empty
    cases spelled
    rfl
  · rw [listedNames, List.splitOn_intercalate ',' (spelled.comma_not_mem listable) empty]
    exact spelled.filter_eq listable

/-- A text is cut wherever the mark stands. -/
theorem not_mem_of_mem_splitOn {mark : Char} {text item : List Char}
    (cut : item ∈ text.splitOn mark) : mark ∉ item := by
  induction text generalizing item with
  | nil =>
      rw [List.splitOn_nil, List.mem_singleton] at cut
      rw [cut]
      exact List.not_mem_nil
  | cons first rest inductionHypothesis =>
      rw [List.splitOn_cons_eq_if_modifyHead] at cut
      split at cut
      case isTrue marked =>
        rcases List.mem_cons.mp cut with rfl | later
        · exact List.not_mem_nil
        · exact inductionHypothesis later
      case isFalse other =>
        rcases List.exists_cons_of_ne_nil (List.splitOn_ne_nil mark rest) with ⟨head, tail, parts⟩
        rw [parts, List.modifyHead_cons] at cut
        rw [parts] at inductionHypothesis
        rcases List.mem_cons.mp cut with rfl | later
        · refine List.not_mem_cons_of_ne_of_not_mem ?_ (inductionHypothesis List.mem_cons_self)
          rintro rfl
          exact other (beq_self_eq_true _)
        · exact inductionHypothesis (List.mem_cons_of_mem _ later)

/-- Whatever a text is, a list can be made of the names that are read out of it. -/
theorem isListable_of_mem_listedNames {text name : List Char} (member : name ∈ listedNames text) :
    IsListable name := by
  rcases List.mem_filter.mp member with ⟨trimmed, filled⟩
  rcases List.mem_map.mp trimmed with ⟨item, cut, rfl⟩
  refine ⟨by simpa using filled, ?_, isBare_trim item⟩
  intro comma
  rcases isPadded_trim item with ⟨front, back, -, -, whole⟩
  apply not_mem_of_mem_splitOn cut
  rw [whole]
  exact List.mem_append_left _ (List.mem_append_right _ comma)

end Text

/-! ## Registries -/

namespace Config

/-- A text that gives the names in their order: items with the names, and blank items, with commas
between them. -/
def IsListing (names : List String) (text : String) : Prop :=
  ∃ items, Text.SpellsList (names.map String.toList) items ∧
    text.toList = [','].intercalate items

theorem isListing_intercalate (names : List String) :
    IsListing names (",".intercalate names) :=
  ⟨names.map String.toList, Text.spellsList_self _, String.toList_intercalate⟩

/-- Every text is a listing of the names that are read out of it. -/
theorem isListing_registryNames (text : String) : IsListing (registryNames text) text := by
  refine ⟨text.toList.splitOn ',', ?_, (List.intercalate_splitOn ',').symm⟩
  have same : (registryNames text).map String.toList = Text.listedNames text.toList := by
    rw [registryNames, List.map_map]
    exact (List.map_congr_left fun _ _ => String.toList_ofList).trans (List.map_id _)
  rw [same]
  exact Text.spellsList_filter _

theorem isListable_of_mem_registryNames {text name : String} (member : name ∈ registryNames text) :
    Text.IsListable name.toList := by
  rcases List.mem_map.mp member with ⟨letters, listed, rfl⟩
  rw [String.toList_ofList]
  exact Text.isListable_of_mem_listedNames listed

theorem registryNames_of_isListing {names : List String} {text : String}
    (listable : ∀ name ∈ names, Text.IsListable name.toList) (listing : IsListing names text) :
    registryNames text = names := by
  rcases listing with ⟨items, spelled, whole⟩
  rw [registryNames, whole, Text.listedNames_intercalate spelled (List.forall_mem_map.mpr listable),
    List.map_map]
  exact (List.map_congr_left fun _ _ => String.ofList_toList).trans (List.map_id _)

/-- The list of registries decides the registries, and nothing else. -/
theorem ofVariables_update_registries (environment : Variables) (text : String) :
    ofVariables (Function.update environment registriesKey (some text)) =
      (ofVariables environment).map fun config =>
        { config with registries := registryNames text } := by
  have other {key : String} (different : key ≠ registriesKey) :
      Function.update environment registriesKey (some text) key = environment key :=
    Function.update_of_ne different _ _
  have number {key : String} (different : key ≠ registriesKey) (default : Nat) :
      readNumber (Function.update environment registriesKey (some text)) key default =
        readNumber environment key default := by
    rw [readNumber, readNumber, other different]
  have address (listener : Listener) :
      Function.update environment registriesKey (some text) (bindAddressKey.get listener) =
        environment (bindAddressKey.get listener) := by
    apply other
    cases listener <;> decide
  simp only [ofVariables, address, Function.update_self, Option.getD_some,
    other (show namespaceKey ≠ registriesKey by decide),
    other (show configDirKey ≠ registriesKey by decide),
    other (show certDirKey ≠ registriesKey by decide),
    number (show refreshDelayKey ≠ registriesKey by decide),
    number (show maxMessageSizeKey ≠ registriesKey by decide)]
  cases readNumber environment refreshDelayKey defaultRefreshDelayMs with
  | error error => rfl
  | ok delay => cases readNumber environment maxMessageSizeKey defaultMaxMessageSize <;> rfl

/-- The registries of a configuration are those of its list, however the list is spelled.

With a listing of names, and all else as it was, the same configuration is loaded but for the
registries, which are these names in their order, as often as they are listed. Any text whatsoever
gives such names, and the names with plain commas between them give the same again. -/
theorem ofVariables_registries {environment : Variables} {config : Config}
    (loaded : ofVariables environment = .ok config) :
    (∀ names text, (∀ name ∈ names, Text.IsListable name.toList) → IsListing names text →
      ofVariables (Function.update environment registriesKey (some text)) =
        .ok { config with registries := names }) ∧
    ∀ text, ∃ names, (∀ name ∈ names, Text.IsListable name.toList) ∧
      ofVariables (Function.update environment registriesKey (some text)) =
        .ok { config with registries := names } ∧
      ofVariables (Function.update environment registriesKey (some (",".intercalate names))) =
        .ok { config with registries := names } := by
  have listed (text : String) :
      ofVariables (Function.update environment registriesKey (some text)) =
        .ok { config with registries := registryNames text } := by
    rw [ofVariables_update_registries, loaded]
    rfl
  refine ⟨?_, ?_⟩
  · intro names text listable listing
    rw [listed, registryNames_of_isListing listable listing]
  · intro text
    have listable : ∀ name ∈ registryNames text, Text.IsListable name.toList :=
      fun _ => isListable_of_mem_registryNames
    refine ⟨registryNames text, listable, listed text, ?_⟩
    rw [listed, registryNames_of_isListing listable (isListing_intercalate _)]

/-- A name twice, and one with blanks within, among blanks of several scripts. -/
theorem ofVariables_registries_spaced :
    ∃ config, ofVariables (fun _ => none) = .ok config ∧
      ofVariables (Function.update (fun _ => none) registriesKey
        (some "\u3000Mock ,,my  registry\t, \n,Mock")) =
          .ok { config with registries := ["Mock", "my  registry", "Mock"] } := by
  have plain : ∃ config, ofVariables (fun _ => none) = .ok config := ⟨_, rfl⟩
  rcases plain with ⟨config, loaded⟩
  refine ⟨config, loaded, (ofVariables_registries loaded).1 _ _ ?_ ?_⟩
  · simp only [List.mem_cons, List.not_mem_nil, or_false]
    rintro name (rfl | rfl | rfl)
    all_goals exact ⟨by decide, by decide, rfl, rfl⟩
  · have allBlank {text : List Char} (all : text.all Text.isBlank = true) : Text.AllBlank text :=
      List.all_eq_true.mp all
    refine ⟨["\u3000Mock ".toList, [], "my  registry\t".toList, " \n".toList, "Mock".toList],
      ?_, by decide⟩
    exact .name ⟨['\u3000'], [' '], allBlank rfl, allBlank rfl, rfl⟩
      (.blank (allBlank rfl) (.name ⟨[], ['\t'], allBlank rfl, allBlank rfl, rfl⟩
        (.blank (allBlank rfl) (.name ⟨[], [], allBlank rfl, allBlank rfl, rfl⟩ .nil))))

end Config

end MeshControl

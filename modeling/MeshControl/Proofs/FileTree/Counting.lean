import Mathlib.Data.Set.Card
import MeshControl.ConfigFiles
import MeshControl.Proofs.FileTree.Keeping
import MeshControl.Proofs.Text.Cutting

/-!
How many configuration files a scan of a directory finds.

A scan takes the extension of a name off at its last dot, and a dot in front of the whole name does not
count. What it finds is told without looking for dots: regular files whose names are some bytes and
then one of three endings. The last dot of such a name is the one of its ending, because there is none
behind it. The bytes before it may be anything, among them dots and what is no text.

Entries are counted one by one, so their order does not matter. A change is told by the one entry that
it changes. That entry is set apart from all others, which stay as they are.

Main statement: `FileTree.scan_counts`.
-/

namespace MeshControl

/-! ## Names -/

namespace FileName

/-- There is no dot in an extension, and something comes before its own dot. -/
theorem extension?_eq_some_iff {name extension : FileName} :
    name.extension? = some extension ↔
      dotByte ∉ extension ∧ ∃ stem, stem ≠ [] ∧ name = stem ++ dotByte :: extension := by
  rw [extension?, List.span_eq_takeWhile_dropWhile]
  constructor
  · intro found
    -- The name is read from its end, so the first dot that is met is the last one.
    have whole := List.takeWhile_append_dropWhile (p := (· ≠ dotByte)) (l := name.reverse)
    have undotted : dotByte ∉ name.reverse.takeWhile (· ≠ dotByte) := Text.not_mem_takeWhile _
    have dotted := List.head?_dropWhile_not (· ≠ dotByte) name.reverse
    split at found
    case h_1 reversed first second before cut =>
      cases found
      injection cut with front back
      rw [front, back] at whole
      rw [front] at undotted
      rw [back] at dotted
      have dot : first = dotByte := by simpa using dotted
      refine ⟨mt List.mem_reverse.mp undotted, (second :: before).reverse, by simp, ?_⟩
      rw [← List.reverse_reverse name, ← whole, dot]
      simp
    case h_2 => cases found
  · rintro ⟨undotted, stem, filled, rfl⟩
    have plain : dotByte ∉ extension.reverse := mt List.mem_reverse.mp undotted
    have backwards : (stem ++ dotByte :: extension).reverse =
        extension.reverse ++ dotByte :: stem.reverse := by simp
    rcases List.exists_cons_of_ne_nil (mt List.reverse_eq_nil_iff.mp filled) with
      ⟨last, before, ends⟩
    rw [backwards, Text.takeWhile_append_mark plain, Text.dropWhile_append_mark plain, ends]
    simp

/-- The name of a configuration file: some bytes, and one of the endings in exactly this case. -/
def IsConfig (name : FileName) : Prop :=
  ∃ stem ending, stem ≠ [] ∧ ending ∈ [".yaml", ".yml", ".json"] ∧
    name = stem ++ FileName.ofText ending.toList

/-- The endings are the extensions with their dots. -/
theorem isConfig_iff {name : FileName} :
    name.IsConfig ↔ ∃ extension ∈ configExtensions, name.extension? = some extension := by
  have undotted : ∀ extension ∈ configExtensions, dotByte ∉ extension := by decide
  have endings : [".yaml", ".yml", ".json"].map (fun ending => ofText ending.toList) =
      configExtensions.map (dotByte :: ·) := by decide
  constructor
  · rintro ⟨stem, ending, filled, known, rfl⟩
    have dotted := List.mem_map_of_mem (f := fun ending => ofText ending.toList) known
    rw [endings] at dotted
    rcases List.mem_map.mp dotted with ⟨extension, listed, same⟩
    refine ⟨extension, listed, extension?_eq_some_iff.mpr ⟨undotted extension listed, stem, filled, ?_⟩⟩
    rw [same]
  · rintro ⟨extension, listed, found⟩
    rcases extension?_eq_some_iff.mp found with ⟨-, stem, filled, rfl⟩
    have dotted := List.mem_map_of_mem (f := (dotByte :: ·)) listed
    rw [← endings] at dotted
    rcases List.mem_map.mp dotted with ⟨ending, known, same⟩
    refine ⟨stem, ending, filled, known, ?_⟩
    rw [same]

/-- What lies at a name, if anything does, is a configuration file: it has such a name, and is a
regular file. -/
def IsConfigAt (name : FileName) (found : Option FileNode) : Prop :=
  name.IsConfig ∧ ∃ content, found = some (.file content)

theorem not_isConfigAt_none (name : FileName) : ¬ name.IsConfigAt none := by
  rintro ⟨-, content, ⟨⟩⟩

/-- A change below something neither makes nor removes a configuration file there. -/
theorem isConfigAt_alter {name first : FileName} {rest : List FileName}
    {change : Option FileNode → Option FileNode} {found : Option FileNode} :
    name.IsConfigAt (FileNode.alter change (first :: rest) found) ↔ name.IsConfigAt found := by
  rcases found with _ | ⟨content | _ | target | entries⟩
  case some.directory => simp [IsConfigAt, FileNode.alter]
  all_goals rfl

end FileName

/-! ## Entries -/

theorem isConfigFile_iff {entry : FileName × FileNode} :
    isConfigFile entry = true ↔ entry.1.IsConfigAt (some entry.2) := by
  have regular : entry.2.isRegularFile = true ↔ ∃ content, some entry.2 = some (.file content) := by
    rcases entry with ⟨name, node⟩
    cases node <;> simp [FileNode.isRegularFile]
  rw [isConfigFile, FileName.IsConfigAt, FileName.isConfig_iff, Bool.and_eq_true, regular, and_comm]
  cases entry.1.extension? <;> simp

/-- Entries that are told apart by their names are counted as a set. -/
theorem countConfigFiles_eq_ncard {entries : DirectoryEntries}
    (distinct : (entries.map Prod.fst).Nodup) :
    countConfigFiles entries =
      {entry | entry ∈ entries ∧ FileName.IsConfigAt entry.1 (some entry.2)}.ncard := by
  classical
  have once : (entries.filter isConfigFile).Nodup := distinct.of_map.filter _
  have counted : {entry | entry ∈ entries ∧ FileName.IsConfigAt entry.1 (some entry.2)} =
      ((entries.filter isConfigFile).toFinset : Set (FileName × FileNode)) := by
    ext entry
    simp [isConfigFile_iff]
  rw [countConfigFiles, List.countP_eq_length_filter, counted, Set.ncard_coe_finset,
    List.toFinset_card_of_nodup once]

namespace DirectoryEntries

/-- The entries of one name, if anything lies there. -/
def alone (name : FileName) (found : Option FileNode) : DirectoryEntries :=
  found.toList.map (Prod.mk name)

theorem countConfigFiles_alone_of {name : FileName} {found : Option FileNode}
    (config : name.IsConfigAt found) : countConfigFiles (alone name found) = 1 := by
  rcases config with ⟨named, content, rfl⟩
  exact List.countP_eq_length.mpr (by simp [alone, isConfigFile_iff, FileName.IsConfigAt, named])

theorem countConfigFiles_alone_of_not {name : FileName} {found : Option FileNode}
    (other : ¬ name.IsConfigAt found) : countConfigFiles (alone name found) = 0 := by
  cases found with
  | none => rfl
  | some node => exact List.countP_eq_zero.mpr (by simpa [alone, isConfigFile_iff] using other)

theorem set_eq (entries : DirectoryEntries) (name : FileName) (change : Option FileNode) :
    entries.set name change = entries.erase name ++ alone name change := by
  cases change with
  | none => exact (List.append_nil _).symm
  | some node => rfl

section Distinct

variable {entries : DirectoryEntries} (distinct : (entries.map Prod.fst).Nodup)
include distinct

/-- Entries are those of one name and those of all others. -/
theorem perm_erase_append (name : FileName) :
    entries.Perm (entries.erase name ++ alone name (entries.find? name)) := by
  induction entries with
  | nil => exact .nil
  | cons entry rest inductionHypothesis =>
      rcases entry with ⟨first, node⟩
      rcases List.nodup_cons.mp distinct with ⟨fresh, others⟩
      by_cases same : name = first
      · subst same
        have absent : erase rest name = rest := by
          apply List.filter_eq_self.mpr
          intro entry member
          rw [bne_iff_ne]
          intro again
          exact fresh (List.mem_map.mpr ⟨entry, member, again⟩)
        have removed : erase ((name, node) :: rest) name = rest :=
          (List.filter_cons_of_neg (by simp)).trans absent
        rw [removed, find?, List.lookup_cons_self]
        exact (List.perm_append_singleton (name, node) rest).symm
      · have kept : erase ((first, node) :: rest) name = (first, node) :: erase rest name :=
          List.filter_cons_of_pos (bne_iff_ne.mpr (Ne.symm same))
        rw [kept, find?, List.lookup_cons, beq_eq_false_iff_ne.mpr same]
        exact (inductionHypothesis others).cons (first, node)

/-- A change of one entry takes away what that entry counted before, and adds what it counts now. -/
theorem countConfigFiles_set (name : FileName) (change : Option FileNode) :
    countConfigFiles (entries.set name change) +
        countConfigFiles (alone name (entries.find? name)) =
      countConfigFiles entries + countConfigFiles (alone name change) := by
  have before : countConfigFiles entries = _ := (perm_erase_append distinct name).countP_eq _
  rw [before, set_eq]
  simp only [countConfigFiles, List.countP_append]
  omega

theorem countConfigFiles_set_of_iff {name : FileName} {change : Option FileNode}
    (alike : name.IsConfigAt (entries.find? name) ↔ name.IsConfigAt change) :
    countConfigFiles (entries.set name change) = countConfigFiles entries := by
  have told := countConfigFiles_set distinct name change
  by_cases config : name.IsConfigAt change
  · rw [countConfigFiles_alone_of config, countConfigFiles_alone_of (alike.mpr config)] at told
    omega
  · rw [countConfigFiles_alone_of_not config,
      countConfigFiles_alone_of_not (mt alike.mp config)] at told
    omega

theorem countConfigFiles_set_of_new {name : FileName} {change : Option FileNode}
    (before : ¬ name.IsConfigAt (entries.find? name)) (after : name.IsConfigAt change) :
    countConfigFiles (entries.set name change) = countConfigFiles entries + 1 := by
  have told := countConfigFiles_set distinct name change
  rwa [countConfigFiles_alone_of_not before, countConfigFiles_alone_of after] at told

theorem countConfigFiles_set_of_gone {name : FileName} {change : Option FileNode}
    (before : name.IsConfigAt (entries.find? name)) (after : ¬ name.IsConfigAt change) :
    countConfigFiles (entries.set name change) + 1 = countConfigFiles entries := by
  have told := countConfigFiles_set distinct name change
  rwa [countConfigFiles_alone_of before, countConfigFiles_alone_of_not after] at told

theorem distinct_set_none (name : FileName) :
    ((entries.set name none).map Prod.fst).Nodup :=
  distinct.sublist (List.filter_sublist.map Prod.fst)

/-- An entry that is renamed counts under its new name if it did under the old one. -/
theorem countConfigFiles_rename {old new : FileName}
    (replaced : ¬ new.IsConfigAt (entries.find? new))
    (alike : old.IsConfigAt (entries.find? old) ↔ new.IsConfigAt (entries.find? old)) :
    countConfigFiles ((entries.set old none).set new (entries.find? old)) =
      countConfigFiles entries := by
  have free : ¬ new.IsConfigAt ((entries.set old none).find? new) := by
    rw [set, find?_erase]
    split
    · exact new.not_isConfigAt_none
    · exact replaced
  -- The name that is given up is one change, and the one that is taken another.
  have removed := distinct_set_none distinct old
  by_cases config : old.IsConfigAt (entries.find? old)
  · rw [countConfigFiles_set_of_new removed free (alike.mp config)]
    exact countConfigFiles_set_of_gone distinct config old.not_isConfigAt_none
  · rw [countConfigFiles_set_of_iff removed (iff_of_false free (mt alike.mpr config))]
    exact countConfigFiles_set_of_iff distinct (iff_of_false config old.not_isConfigAt_none)

end Distinct

end DirectoryEntries

/-! ## Scans -/

namespace FileTree

theorem scan_of_list {tree : FileTree} {path : String} {entries : DirectoryEntries}
    (listed : tree.list path = .ok entries) : tree.scan path = .ok (countConfigFiles entries) := by
  rw [scan, listed]
  rfl

/-- What a scan of a directory finds, and how that changes with the directory.

The number is that of the entries that are regular files with the name of a configuration file. A
later scan may be one of other files altogether: only the entries that are listed count, and not their
order. Where one entry was made, removed or replaced, the number stays if that entry was a
configuration file before and is one now, or neither; otherwise it goes up or down by one. Nothing
that happens below an entry has an effect. An entry that was renamed, and replaced no configuration
file, has an effect only if one of its names makes it a configuration file and the other does not. -/
theorem scan_counts {tree : FileTree} {path : String} {entries : DirectoryEntries}
    (listed : tree.list path = .ok entries) (distinct : (entries.map Prod.fst).Nodup) :
    tree.scan path =
        .ok {entry | entry ∈ entries ∧ FileName.IsConfigAt entry.1 (some entry.2)}.ncard ∧
      ∀ {later : FileTree} {path' : String} {entries' : DirectoryEntries},
        later.list path' = .ok entries' →
          (entries'.Perm entries → later.scan path' = tree.scan path) ∧
          (∀ name change, entries'.Perm (entries.set name change) →
            ((name.IsConfigAt (entries.find? name) ↔ name.IsConfigAt change) →
              later.scan path' = tree.scan path) ∧
            (¬ name.IsConfigAt (entries.find? name) → name.IsConfigAt change →
              later.scan path' = (tree.scan path).map (· + 1)) ∧
            (name.IsConfigAt (entries.find? name) → ¬ name.IsConfigAt change →
              tree.scan path = (later.scan path').map (· + 1))) ∧
          (∀ name first rest change,
            entries'.Perm (entries.set name
              (FileNode.alter change (first :: rest) (entries.find? name))) →
              later.scan path' = tree.scan path) ∧
          (∀ old new, entries'.Perm ((entries.set old none).set new (entries.find? old)) →
            ¬ new.IsConfigAt (entries.find? new) →
            (old.IsConfigAt (entries.find? old) ↔ new.IsConfigAt (entries.find? old)) →
              later.scan path' = tree.scan path) := by
  refine ⟨?_, ?_⟩
  · rw [scan_of_list listed, countConfigFiles_eq_ncard distinct]
  intro later path' entries' listed'
  rw [scan_of_list listed, scan_of_list listed']
  have counted {order : DirectoryEntries} (same : entries'.Perm order) :
      countConfigFiles entries' = countConfigFiles order := same.countP_eq _
  refine ⟨?_, ?_, ?_, ?_⟩
  · intro same
    rw [counted same]
  · intro name change same
    rw [counted same]
    refine ⟨?_, ?_, ?_⟩
    · intro alike
      rw [DirectoryEntries.countConfigFiles_set_of_iff distinct alike]
    · intro before after
      rw [DirectoryEntries.countConfigFiles_set_of_new distinct before after]
      rfl
    · intro before after
      rw [← DirectoryEntries.countConfigFiles_set_of_gone distinct before after]
      rfl
  · intro name first rest change same
    rw [counted same,
      DirectoryEntries.countConfigFiles_set_of_iff distinct FileName.isConfigAt_alter.symm]
  · intro old new same replaced alike
    rw [counted same, DirectoryEntries.countConfigFiles_rename distinct replaced alike]

/-- Entries of which the first three are configuration files: one as usual, one with two dots in front,
and one whose name is no text. Of the others two have no such name, and two are no regular files. -/
def mixture : DirectoryEntries :=
  [(.ofText "gateway.yaml".toList, .file .other), (.ofText "..yml".toList, .file .other),
    (0xff :: FileName.ofText ".json".toList, .file .other), (.ofText ".json".toList, .file .other),
    (.ofText "routes.YAML".toList, .file .other),
    (.ofText "policy.json".toList, .link [.ofText "elsewhere".toList]),
    (.ofText "nested.yaml".toList, .directory [(.ofText "inner.yaml".toList, .file .other)])]

/-- A directory with some entries. -/
def holding (entries : DirectoryEntries) : FileTree :=
  ⟨.directory [(.ofText "conf".toList, .directory entries)], []⟩

/-- One more file is found when a link gives way to it, wherever it is listed. -/
theorem scan_counts_mixture :
    let name := FileName.ofText "policy.json".toList
    (holding mixture).scan "/conf" = .ok 3 ∧
      (holding (mixture.set name (some (.file .other))).reverse).scan "conf" = .ok 4 := by
  intro name
  have listed : (holding mixture).list "/conf" = .ok mixture := rfl
  have listed' : (holding (mixture.set name (some (.file .other))).reverse).list "conf" =
      .ok (mixture.set name (some (.file .other))).reverse := rfl
  have found : (holding mixture).scan "/conf" = .ok 3 := by decide
  refine ⟨found, ?_⟩
  have changed := ((scan_counts listed (by decide)).2 listed').2.1 name (some (.file .other))
    (List.reverse_perm _)
  have linked : ¬ name.IsConfigAt (mixture.find? name) := by
    rintro ⟨-, content, ⟨⟩⟩
  have filed : name.IsConfigAt (some (.file .other)) :=
    ⟨⟨FileName.ofText "policy".toList, ".json", by decide, by decide, rfl⟩, .other, rfl⟩
  rw [changed.2.1 linked filed, found]
  rfl

end FileTree

end MeshControl

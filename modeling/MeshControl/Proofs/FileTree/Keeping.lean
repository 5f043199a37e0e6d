import MeshControl.FileTree.Change
import MeshControl.Server.Construction

/-!
What stays where it is while a program makes files and directories.

A program only adds to the files. It makes a directory where nothing is, and writes a file where
nothing or a file is, so whatever was at a place is still there afterwards, in the same sort: a
directory may hold more, and a file something else. A walk looks at nothing but sorts. Therefore it
still leads to where it led before, and a directory that was made is there until somebody removes it.

Main statements: `FileTree.createDirectory_keeps` and `FileTree.writeFile_keeps`.
-/

namespace MeshControl

/-! ## Entries -/

namespace DirectoryEntries

theorem find?_erase (entries : DirectoryEntries) (name sought : FileName) :
    find? (erase entries name) sought = if sought = name then none else find? entries sought := by
  induction entries with
  | nil => simp [find?, erase]
  | cons entry rest inductionHypothesis =>
      rcases entry with ⟨found, node⟩
      simp only [find?, erase, List.filter_cons] at inductionHypothesis ⊢
      by_cases removed : found = name
      · subst removed
        rw [if_neg (by simp), inductionHypothesis]
        by_cases same : sought = found
        · simp [same]
        · rw [if_neg same, if_neg same, List.lookup_cons, beq_eq_false_iff_ne.mpr same]
      · rw [if_pos (by simpa using removed)]
        by_cases same : sought = found
        · subst same
          simp [removed]
        · rw [List.lookup_cons, List.lookup_cons, beq_eq_false_iff_ne.mpr same]
          exact inductionHypothesis

theorem find?_set_self (entries : DirectoryEntries) (name : FileName) (change : Option FileNode) :
    find? (set entries name change) name = change := by
  have erased := find?_erase entries name name
  rw [if_pos rfl] at erased
  cases change with
  | none => exact erased
  | some node =>
      rw [find?] at erased
      rw [find?, set, List.lookup_append, erased, Option.none_or, List.lookup_cons_self]

theorem find?_set_of_ne {name sought : FileName} (different : sought ≠ name)
    (entries : DirectoryEntries) (change : Option FileNode) :
    find? (set entries name change) sought = find? entries sought := by
  have kept := find?_erase entries name sought
  rw [if_neg different] at kept
  cases change with
  | none => exact kept
  | some node =>
      have alone : List.lookup sought [(name, node)] = none := by
        rw [List.lookup_cons, beq_eq_false_iff_ne.mpr different, List.lookup_nil]
      rw [find?] at kept
      rw [find?, set, List.lookup_append, kept, alone, Option.or_none]

end DirectoryEntries

/-! ## Nodes -/

namespace FileNode

/-- Nodes of the same sort. Links lead to the same place; what files and directories hold does not
matter. -/
inductive Alike : FileNode → FileNode → Prop where
  | file (content later : FileContent) : Alike (.file content) (.file later)
  | socket : Alike .socket .socket
  | link (target : List FileName) : Alike (.link target) (.link target)
  | directory (entries later : DirectoryEntries) : Alike (.directory entries) (.directory later)

theorem Alike.refl (node : FileNode) : node.Alike node := by
  cases node with
  | file content => exact .file content content
  | socket => exact .socket
  | link target => exact .link target
  | directory entries => exact .directory entries entries

theorem Alike.trans {first second third : FileNode} (alike : first.Alike second)
    (next : second.Alike third) : first.Alike third := by
  cases alike with
  | file content later =>
      cases next
      exact .file ..
  | socket => exact next
  | link target => exact next
  | directory entries later =>
      cases next
      exact .directory ..

/-- All that lies below one node lies below another as well, in the same sort. -/
def Keeps (node made : FileNode) : Prop :=
  ∀ place found, FileTree.below node place = some found →
    ∃ counterpart, FileTree.below made place = some counterpart ∧ found.Alike counterpart

theorem Keeps.refl (node : FileNode) : node.Keeps node :=
  fun _ found present => ⟨found, present, .refl found⟩

theorem Keeps.trans {first second third : FileNode} (kept : first.Keeps second)
    (next : second.Keeps third) : first.Keeps third := by
  intro place found present
  rcases kept place found present with ⟨middle, there, alike⟩
  rcases next place middle there with ⟨last, still, alike'⟩
  exact ⟨last, still, alike.trans alike'⟩

theorem keeps_file (content later : FileContent) :
    (FileNode.file content).Keeps (.file later) := by
  intro place found present
  cases place with
  | nil =>
      cases present
      exact ⟨_, rfl, .file content later⟩
  | cons name rest => cases present

/-- A change at one place keeps everything if it keeps what was at that place. -/
theorem exists_alter {new : FileNode} {place : List FileName} {node : FileNode}
    (kept : ∀ old, FileTree.below node place = some old → old.Keeps new) :
    ∃ made, alter (fun _ => some new) place (some node) = some made ∧ node.Keeps made := by
  induction place generalizing node with
  | nil => exact ⟨new, rfl, kept node rfl⟩
  | cons name rest inductionHypothesis =>
      cases node with
      | file | socket | link => exact ⟨_, rfl, .refl _⟩
      | directory entries =>
          refine ⟨_, rfl, ?_⟩
          intro place found present
          cases place with
          | nil =>
              cases present
              exact ⟨_, rfl, .directory ..⟩
          | cons following deeper =>
              rw [FileTree.below] at present
              rw [FileTree.below]
              by_cases same : following = name
              · subst same
                rw [DirectoryEntries.find?_set_self]
                rcases Option.bind_eq_some_iff.mp present with ⟨child, entry, within⟩
                have keptChild : ∀ old, FileTree.below child rest = some old → old.Keeps new := by
                  intro old there
                  apply kept
                  rw [FileTree.below, entry, Option.bind_some, there]
                rcases inductionHypothesis keptChild with ⟨made, altered, keeps⟩
                rw [entry, altered, Option.bind_some]
                exact keeps deeper found within
              · rw [DirectoryEntries.find?_set_of_ne same]
                exact ⟨found, present, .refl found⟩

/-- A change at a place that has a directory above it takes effect. -/
theorem exists_below_alter {new : FileNode} {parent : List FileName} {name : FileName}
    {node : FileNode} {entries : DirectoryEntries}
    (above : FileTree.below node parent = some (.directory entries)) :
    ∃ made, alter (fun _ => some new) (parent ++ [name]) (some node) = some made ∧
      FileTree.below made (parent ++ [name]) = some new := by
  induction parent generalizing node with
  | nil =>
      cases above
      refine ⟨_, rfl, ?_⟩
      rw [List.nil_append, FileTree.below, DirectoryEntries.find?_set_self]
      rfl
  | cons first rest inductionHypothesis =>
      cases node with
      | file | socket | link => cases above
      | directory entries' =>
          rw [FileTree.below] at above
          rcases Option.bind_eq_some_iff.mp above with ⟨child, entry, within⟩
          rcases inductionHypothesis within with ⟨made, altered, there⟩
          rw [List.cons_append]
          refine ⟨_, rfl, ?_⟩
          rw [FileTree.below, DirectoryEntries.find?_set_self, entry, altered]
          exact there

end FileNode

namespace FileTree

open Server (exists_of_bind_ok)

/-! ## Trees -/

/-- All files of one tree are in another as well, in the same sort. -/
structure Keeps (tree made : FileTree) : Prop where
  workingDirectory : made.workingDirectory = tree.workingDirectory
  root : tree.root.Keeps made.root

theorem Keeps.refl (tree : FileTree) : tree.Keeps tree :=
  ⟨rfl, .refl tree.root⟩

theorem Keeps.trans {first second third : FileTree} (kept : first.Keeps second)
    (next : second.Keeps third) : first.Keeps third :=
  ⟨next.workingDirectory.trans kept.workingDirectory, kept.root.trans next.root⟩

theorem keeps_alter {tree : FileTree} {place : List FileName} {new : FileNode}
    (kept : ∀ old, below tree.root place = some old → old.Keeps new) :
    tree.Keeps (tree.alter place fun _ => some new) := by
  rcases FileNode.exists_alter kept with ⟨made, altered, keeps⟩
  refine ⟨rfl, ?_⟩
  rw [alter, altered, Option.getD_some]
  exact keeps

theorem keeps_alter_of_free {tree : FileTree} {place : List FileName}
    (free : below tree.root place = none) (new : FileNode) :
    tree.Keeps (tree.alter place fun _ => some new) := by
  apply keeps_alter
  intro old present
  rw [free] at present
  cases present

theorem below_alter {tree : FileTree} {parent : List FileName} {entries : DirectoryEntries}
    (above : below tree.root parent = some (.directory entries)) (name : FileName)
    (new : FileNode) :
    below (tree.alter (parent ++ [name]) fun _ => some new).root (parent ++ [name]) = some new := by
  rcases FileNode.exists_below_alter above with ⟨made, altered, there⟩
  rw [alter, altered, Option.getD_some]
  exact there

/-! ## Walks -/

/-- The name of an entry: neither empty nor dots, and not too long. -/
def IsEntryName (name : FileName) : Prop :=
  name.moves = true ∧ name ≠ FileName.ofText ['.', '.'] ∧ name.length ≤ maxNameLength

theorem nodeAt_eq_ok {tree : FileTree} {place : List FileName} {node : FileNode} :
    tree.nodeAt place = .ok node ↔ below tree.root place = some node := by
  rw [nodeAt]
  cases below tree.root place <;> simp

theorem enter_of_directory {tree : FileTree} {place : List FileName} {entries : DirectoryEntries}
    (there : below tree.root place = some (.directory entries)) (name : FileName) :
    tree.enter place name =
      if !name.moves then .ok place
      else if name = FileName.ofText ['.', '.'] then .ok place.dropLast
      else if maxNameLength < name.length then .error .nameTooLong
      else
        let next := tree.destination (place ++ [name])
        (tree.nodeAt next).map fun _ => next := by
  rw [enter, nodeAt_eq_ok.mpr there]
  dsimp only
  cases tree.nodeAt (tree.destination (place ++ [name])) <;> rfl

/-- A walk takes a name at directories only. -/
theorem exists_directory_of_enter {tree : FileTree} {place next : List FileName} {name : FileName}
    (entered : tree.enter place name = .ok next) :
    ∃ entries, below tree.root place = some (.directory entries) := by
  rcases exists_of_bind_ok entered with ⟨node, there, goesOn⟩
  cases node with
  | file | socket | link => cases goesOn
  | directory entries => exact ⟨entries, nodeAt_eq_ok.mp there⟩

/-- At a directory a walk stays, or goes back to the directory above, or goes on to an entry and to
where that leads. -/
theorem enter_eq_ok_iff {tree : FileTree} {place next : List FileName} {name : FileName}
    {entries : DirectoryEntries} (there : below tree.root place = some (.directory entries)) :
    tree.enter place name = .ok next ↔
      name.moves = false ∧ next = place ∨
        name.moves = true ∧ name = FileName.ofText ['.', '.'] ∧ next = place.dropLast ∨
        IsEntryName name ∧ next = tree.destination (place ++ [name]) ∧
          ∃ node, below tree.root next = some node := by
  rw [enter_of_directory there]
  grind [IsEntryName, nodeAt, Except.map]

theorem Keeps.destination {tree made : FileTree} (kept : tree.Keeps made) {place : List FileName}
    {node : FileNode} (present : below tree.root (tree.destination place) = some node) :
    made.destination place = tree.destination place := by
  cases found : below tree.root place with
  | none =>
      have stays : tree.destination place = place := by rw [FileTree.destination, found]
      rw [stays, found] at present
      cases present
  | some old =>
      rcases kept.root place old found with ⟨counterpart, there, alike⟩
      rw [FileTree.destination, FileTree.destination, found, there]
      cases alike <;> rfl

theorem Keeps.enter {tree made : FileTree} (kept : tree.Keeps made) {place next : List FileName}
    {name : FileName} (entered : tree.enter place name = .ok next) :
    made.enter place name = .ok next := by
  rcases exists_directory_of_enter entered with ⟨entries, there⟩
  rcases kept.root place _ there with ⟨counterpart, still, ⟨⟩⟩
  rw [enter_eq_ok_iff there] at entered
  rw [enter_eq_ok_iff still]
  rcases entered with stayed | back | ⟨entryName, rfl, node, present⟩
  · exact .inl stayed
  · exact .inr (.inl back)
  · rcases kept.root _ node present with ⟨counterpart, found, -⟩
    exact .inr (.inr ⟨entryName, (kept.destination present).symm, counterpart, found⟩)

theorem Keeps.walk {tree made : FileTree} (kept : tree.Keeps made) {start place : List FileName}
    {names : List FileName} (walked : names.foldlM tree.enter start = .ok place) :
    names.foldlM made.enter start = .ok place := by
  induction names generalizing start with
  | nil => exact walked
  | cons name rest inductionHypothesis =>
      rw [List.foldlM_cons] at walked ⊢
      rcases exists_of_bind_ok walked with ⟨next, entered, goesOn⟩
      rw [kept.enter entered]
      exact inductionHypothesis goesOn

theorem leadsToDirectory_iff {tree : FileTree} {start names : List FileName} :
    tree.leadsToDirectory start names = true ↔
      ∃ place entries, names.foldlM tree.enter start = .ok place ∧
        below tree.root place = some (.directory entries) := by
  rw [leadsToDirectory]
  constructor
  · intro leads
    split at leads
    case h_1 entries found =>
      rcases exists_of_bind_ok found with ⟨place, walked, there⟩
      exact ⟨place, entries, walked, nodeAt_eq_ok.mp there⟩
    case h_2 => cases leads
  · rintro ⟨place, entries, walked, there⟩
    rw [walked, show (Except.ok place >>= tree.nodeAt) = tree.nodeAt place from rfl,
      nodeAt_eq_ok.mpr there]

theorem Keeps.leadsToDirectory {tree made : FileTree} (kept : tree.Keeps made)
    {start names : List FileName} (leads : tree.leadsToDirectory start names = true) :
    made.leadsToDirectory start names = true := by
  rcases leadsToDirectory_iff.mp leads with ⟨place, entries, walked, there⟩
  rcases kept.root place _ there with ⟨counterpart, still, ⟨⟩⟩
  exact leadsToDirectory_iff.mpr ⟨place, _, kept.walk walked, still⟩

/-- Names at which a walk stays can be added to a walk that leads to a directory. -/
theorem leadsToDirectory_of_filter {tree : FileTree} {start names : List FileName}
    (leads : tree.leadsToDirectory start (names.filter FileName.moves) = true) :
    tree.leadsToDirectory start names = true := by
  rcases leadsToDirectory_iff.mp leads with ⟨place, entries, walked, there⟩
  refine leadsToDirectory_iff.mpr ⟨place, entries, ?_, there⟩
  clear leads
  induction names generalizing start with
  | nil => exact walked
  | cons name rest inductionHypothesis =>
      rw [List.foldlM_cons]
      by_cases moves : name.moves = true
      · rw [List.filter_cons_of_pos moves, List.foldlM_cons] at walked
        rcases exists_of_bind_ok walked with ⟨next, entered, goesOn⟩
        rw [entered]
        exact inductionHypothesis goesOn
      · rw [List.filter_cons_of_neg moves] at walked
        have atDirectory : ∃ entries, below tree.root start = some (.directory entries) := by
          cases others : rest.filter FileName.moves with
          | nil =>
              rw [others] at walked
              cases walked
              exact ⟨entries, there⟩
          | cons first later =>
              rw [others, List.foldlM_cons] at walked
              rcases exists_of_bind_ok walked with ⟨next, entered, -⟩
              exact exists_directory_of_enter entered
        rcases atDirectory with ⟨around, standing⟩
        have stays : tree.enter start name = .ok start :=
          (enter_eq_ok_iff standing).mpr (.inl ⟨Bool.eq_false_iff.mpr moves, rfl⟩)
        rw [stays]
        exact inductionHypothesis walked

theorem isDirectory_iff {tree : FileTree} {path : String} :
    tree.isDirectory path = true ↔
      ∃ start names, tree.route path = .ok (start, names) ∧
        tree.leadsToDirectory start names = true := by
  rw [isDirectory, find]
  cases routed : tree.route path with
  | error error =>
      refine iff_of_false Bool.false_ne_true ?_
      rintro ⟨start, names, ⟨⟩, -⟩
  | ok route =>
      rcases route with ⟨start, names⟩
      constructor
      · intro there
        exact ⟨start, names, rfl, there⟩
      · rintro ⟨_, _, ⟨⟩, leads⟩
        exact leads

/-- Where a path begins depends on the working directory only. -/
theorem Keeps.route {tree made : FileTree} (kept : tree.Keeps made) (path : String) :
    made.route path = tree.route path := by
  rw [FileTree.route, FileTree.route, kept.workingDirectory]

theorem Keeps.isDirectory {tree made : FileTree} (kept : tree.Keeps made) {path : String}
    (there : tree.isDirectory path = true) : made.isDirectory path = true := by
  rcases isDirectory_iff.mp there with ⟨start, names, routed, leads⟩
  exact isDirectory_iff.mpr
    ⟨start, names, (kept.route path).trans routed, kept.leadsToDirectory leads⟩

/-! ## New entries -/

/-- The place for a new entry is in a directory, and the last name of the walk is its name. -/
theorem entryPlace_eq_ok {tree : FileTree} {start names place : List FileName}
    (found : tree.entryPlace start names = .ok place) :
    ∃ front name parent entries, names = front ++ [name] ∧ IsEntryName name ∧
      front.foldlM tree.enter start = .ok parent ∧
      below tree.root parent = some (.directory entries) ∧ place = parent ++ [name] := by
  rcases exists_of_bind_ok found with ⟨parent, walked, found⟩
  rcases exists_of_bind_ok found with ⟨node, there, found⟩
  cases node with
  | file | socket | link => cases found
  | directory entries =>
      by_cases special : (["", ".", ".."].any fun special =>
          FileName.ofText special.toList = names.getLastD []) = true
      · simp only [special, if_true] at found
        cases found
      by_cases long : maxNameLength < (names.getLastD []).length
      · simp only [special, long, if_true] at found
        cases found
      simp only [special, long, if_false] at found
      cases found
      have filled : names ≠ [] := by
        rintro rfl
        exact special (by decide)
      have last : names.getLastD [] = names.getLast filled := by
        rw [List.getLastD_eq_getLast?, List.getLast?_eq_some_getLast filled, Option.getD_some]
      rw [last] at special long ⊢
      refine ⟨names.dropLast, names.getLast filled, parent, entries,
        (List.dropLast_concat_getLast filled).symm, ?_, walked, nodeAt_eq_ok.mp there, rfl⟩
      simp only [List.any_cons, List.any_nil, Bool.or_false, Bool.or_eq_true, not_or,
        decide_eq_true_eq] at special
      refine ⟨?_, Ne.symm special.2.2, by omega⟩
      simp only [FileName.moves, Bool.not_eq_true', decide_eq_false_iff_not, not_or]
      exact ⟨Ne.symm special.1, Ne.symm special.2.1⟩

/-- A new directory is where it was asked for, and everything else is kept. -/
theorem makeDirectory_keeps {tree made : FileTree} {start names : List FileName}
    (done : tree.makeDirectory start names = .ok made) :
    tree.Keeps made ∧ made.leadsToDirectory start names = true := by
  rcases exists_of_bind_ok done with ⟨place, found, done⟩
  by_cases taken : (below tree.root place).isSome = true
  · simp only [taken, if_true] at done
    cases done
  simp only [taken] at done
  cases done
  have free : below tree.root place = none := Option.not_isSome_iff_eq_none.mp taken
  rcases entryPlace_eq_ok found with
    ⟨front, name, parent, entries, rfl, entryName, walked, there, rfl⟩
  have kept := keeps_alter_of_free free (.directory [])
  have new := below_alter there name (.directory [])
  rcases kept.root parent _ there with ⟨counterpart, still, ⟨⟩⟩
  have entered := (enter_eq_ok_iff still).mpr
    (.inr (.inr ⟨entryName, by rw [destination, new], _, new⟩))
  refine ⟨kept, leadsToDirectory_iff.mpr ⟨parent ++ [name], [], ?_, new⟩⟩
  rw [List.foldlM_append, kept.walk walked]
  exact (bind_pure _).trans entered

/-- A directory that was asked for is there, and everything else is kept. -/
theorem ensureDirectory_keeps {tree made : FileTree} {start names : List FileName}
    (done : tree.ensureDirectory start names = .ok made) :
    tree.Keeps made ∧ made.leadsToDirectory start names = true := by
  rw [ensureDirectory] at done
  split at done
  case h_1 new attempt =>
    cases done
    exact makeDirectory_keeps attempt
  case h_2 error failed =>
    by_cases leads : tree.leadsToDirectory start names = true
    · rw [if_pos leads] at done
      cases done
      exact ⟨.refl tree, leads⟩
    · rw [if_neg leads] at done
      cases done

/-- The directories on the way come first, and the one asked for is made last. -/
theorem ensureDirectories_keeps {tree made : FileTree} {start backwards : List FileName}
    (done : tree.ensureDirectories start backwards = .ok made) :
    tree.Keeps made ∧ made.leadsToDirectory start backwards.reverse = true := by
  induction backwards generalizing made with
  | nil => exact ensureDirectory_keeps done
  | cons last parents inductionHypothesis =>
      rw [ensureDirectories] at done
      split at done
      case h_1 missing =>
        rcases exists_of_bind_ok done with ⟨way, prepared, done⟩
        have last := ensureDirectory_keeps done
        exact ⟨(inductionHypothesis prepared).1.trans last.1, last.2⟩
      case h_2 => exact ensureDirectory_keeps done

theorem createDirectory_keeps {tree made : FileTree} {path : String}
    (done : tree.createDirectory path = .ok made) :
    tree.Keeps made ∧ made.isDirectory path = true := by
  rcases exists_of_bind_ok done with ⟨⟨start, names⟩, routed, done⟩
  rcases ensureDirectories_keeps done with ⟨kept, leads⟩
  rw [List.reverse_reverse] at leads
  exact ⟨kept, isDirectory_iff.mpr
    ⟨start, names, (kept.route path).trans routed, leadsToDirectory_of_filter leads⟩⟩

/-- A file is written where nothing or a file was. -/
theorem writeFile_keeps {tree made : FileTree} {path : String} {content : FileContent}
    (done : tree.writeFile path content = .ok made) : tree.Keeps made := by
  rcases exists_of_bind_ok done with ⟨entry, -, done⟩
  dsimp only at done
  split at done
  case h_1 free =>
    cases done
    exact keeps_alter_of_free free _
  case h_2 before there =>
    cases done
    apply keeps_alter
    intro old present
    rw [there] at present
    cases present
    exact FileNode.keeps_file before content
  case h_3 | h_4 => cases done

end FileTree

end MeshControl

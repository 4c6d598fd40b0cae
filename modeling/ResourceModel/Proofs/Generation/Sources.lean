import Mathlib.Data.List.Nodup
import ResourceModel.Node.DeclarationTree
import ResourceModel.Proofs.FileTree

set_option autoImplicit false

/-! # The declaration files of a tree

Which declaration files a walk of a directory comes to, and in which order: the files of a directory
by their names, then those of its subdirectories, one after the other by their names. As a
directory's own place comes before every place below it, that is the order of the places of the
directories and, within one of them, of the names. -/

namespace ResourceModel

namespace FileTree

variable {files : FileTree} {place : Place}

/-! ## Listings -/

/-- Whether one thing stands at each place. -/
def Distinct (files : FileTree) : Prop :=
  (files.entries.map Prod.fst).Nodup

instance (files : FileTree) : Decidable files.Distinct :=
  inferInstanceAs (Decidable (List.Nodup _))

theorem nodup_listAt (distinct : files.Distinct) (place : Place) :
    ((files.listAt place).map Prod.fst).Nodup := by
  unfold listAt
  refine ((List.mergeSort_perm _ _).map Prod.fst).nodup_iff.2 ?_
  refine List.pairwise_map.2 (List.pairwise_filterMap.2 ((List.pairwise_map.1 distinct).imp ?_))
  intro a b hab x hx y hy hname
  obtain ⟨first, hfirst, rfl⟩ := Option.map_eq_some_iff.1 hx
  obtain ⟨second, hsecond, rfl⟩ := Option.map_eq_some_iff.1 hy
  obtain rfl : first = second := hname
  exact hab ((nameBelow?_eq_some.1 hfirst).trans (nameBelow?_eq_some.1 hsecond).symm)

/-- The entries of a directory are listed by their names. -/
theorem pairwise_listAt (distinct : files.Distinct) (place : Place) :
    (files.listAt place).Pairwise fun a b => a.1 < b.1 := by
  have hsorted : (files.listAt place).Pairwise fun a b => nameLe a.1 b.1 = true := by
    refine List.pairwise_mergeSort (fun a b c hab hbc => ?_) (fun a b => ?_) _
    · exact nameLe_iff.2 (String.le_trans (nameLe_iff.1 hab) (nameLe_iff.1 hbc))
    · rw [Bool.or_eq_true, nameLe_iff, nameLe_iff]
      exact String.le_total a.1 b.1
  refine hsorted.imp₂ (fun a b hle hne => ?_) (List.pairwise_map.1 (nodup_listAt distinct place))
  exact String.not_le.1 fun hge => hne (String.le_antisymm (nameLe_iff.1 hle) hge)

theorem entryAt?_eq_some_iff (distinct : files.Distinct) (below : place ≠ []) {entry : FileEntry} :
    files.entryAt? place = some entry ↔ (place, entry) ∈ files.entries := by
  unfold entryAt?
  rw [if_neg below, Option.map_eq_some_iff]
  constructor
  · rintro ⟨row, hrow, rfl⟩
    obtain rfl : row.1 = place := by simpa using List.find?_some hrow
    exact List.mem_of_find?_eq_some hrow
  · intro hmem
    cases hfound : files.entries.find? fun row => row.1 = place with
    | none => simpa using List.find?_eq_none.1 hfound _ hmem
    | some row =>
      have hplace : row.1 = place := by simpa using List.find?_some hfound
      -- of two rows with one place both are the same
      have hrow := List.inj_on_of_nodup_map distinct (List.mem_of_find?_eq_some hfound) hmem hplace
      exact ⟨row, rfl, by rw [hrow]⟩

theorem isDirectoryAt_iff : files.isDirectoryAt place = true ↔
    files.entryAt? place = some .directory := by
  unfold isDirectoryAt
  split
  · next h => simp [h]
  · next h => simpa using h

theorem fileAt?_eq_some_iff {content : ByteArray} : files.fileAt? place = some content ↔
    files.entryAt? place = some (.file content) := by
  unfold fileAt?
  split
  · next found h => simp [h]
  · next h =>
    simp only [reduceCtorEq, false_iff]
    exact h content

/-! ## Directories on the way -/

/-- Whether a directory stands at a place, and further ones from there along names. -/
def Leads (files : FileTree) (place : Place) : List String → Prop
  | [] => files.isDirectoryAt place = true
  | name :: rest => files.isDirectoryAt place = true ∧ files.Leads (place ++ [name]) rest

instance decidableLeads (files : FileTree) :
    (place : Place) → (names : List String) → Decidable (files.Leads place names)
  | place, [] => inferInstanceAs (Decidable (files.isDirectoryAt place = true))
  | place, name :: rest =>
    have := decidableLeads files (place ++ [name]) rest
    inferInstanceAs (Decidable (files.isDirectoryAt place = true ∧ _))

theorem Leads.isDirectoryAt {names : List String} (h : files.Leads place names) :
    files.isDirectoryAt place = true := by
  cases names with
  | nil => exact h
  | cons name rest => exact h.1

theorem Leads.last {names : List String} (h : files.Leads place names) :
    files.isDirectoryAt (place ++ names) = true := by
  induction names generalizing place with
  | nil =>
    rw [List.append_nil]
    exact h
  | cons name rest ih => simpa using ih h.2

end FileTree

open FileTree

namespace DeclarationTree

/-! ## What a directory holds -/

/-- The name and content of a declaration file. -/
def declaration? : String × FileEntry → Option (String × ByteArray)
  | (name, .file content) =>
    if Path.extensionOfName? name = some "yaml" then some (name, content) else none
  | (_, .directory) => none

theorem declaration?_eq_some {entry : String × FileEntry} {row : String × ByteArray} :
    declaration? entry = some row ↔
      entry = (row.1, .file row.2) ∧ Path.extensionOfName? row.1 = some "yaml" := by
  obtain ⟨name, found⟩ := entry
  constructor
  · intro h
    cases found with
    | directory => cases h
    | file content =>
      obtain ⟨hyaml, hrow⟩ := Option.ite_none_right_eq_some.1 h
      cases hrow
      exact ⟨rfl, hyaml⟩
  · rintro ⟨hentry, hyaml⟩
    cases hentry
    exact if_pos hyaml

/-- The names of the declaration files in a directory, with their contents. -/
def declarationsAt (files : FileTree) (place : Place) : List (String × ByteArray) :=
  (files.listAt place).filterMap declaration?

/-- The names of the subdirectories of a directory. -/
def directoriesAt (files : FileTree) (place : Place) : List String :=
  ((files.listAt place).filter isDirectory).map Prod.fst

/-- The declaration file in a directory with a name and its content. -/
def fileIn (path : Path) (row : String × ByteArray) : DeclarationFile :=
  ⟨path.child row.1, row.2⟩

/-- A tree by the names that stand in its directory. -/
theorem under_succ (files : FileTree) (depth : Nat) (name : String) (path : Path) (place : Place) :
    under files (depth + 1) name path place =
      .directory name path ((declarationsAt files place).map (fileIn path))
        ((directoriesAt files place).map fun sub =>
          under files depth sub (path.child sub) (place ++ [sub])) := by
  have hfiles : (files.listAt place).filterMap (DeclarationFile.ofEntry? path) =
      (declarationsAt files place).map (fileIn path) := by
    rw [declarationsAt, List.map_filterMap]
    refine congrArg (List.filterMap · _) (funext fun row => ?_)
    obtain ⟨name, entry⟩ := row
    cases entry with
    | directory => rfl
    | file content =>
      unfold DeclarationFile.ofEntry? declaration?
      simp only
      split <;> rfl
  rw [← hfiles, directoriesAt, List.map_map]
  rfl

theorem name_under (files : FileTree) (depth : Nat) (name : String) (path : Path) (place : Place) :
    (under files depth name path place).name = name := by
  cases depth <;> rfl

section Listings

variable {files : FileTree} {place : Place}

theorem mem_declarationsAt (distinct : files.Distinct) {name : String} {content : ByteArray} :
    (name, content) ∈ declarationsAt files place ↔
      files.fileAt? (place ++ [name]) = some content ∧
        Path.extensionOfName? name = some "yaml" := by
  rw [fileAt?_eq_some_iff, entryAt?_eq_some_iff distinct (by simp)]
  unfold declarationsAt
  rw [List.mem_filterMap]
  constructor
  · rintro ⟨entry, hmem, hrow⟩
    obtain ⟨rfl, hyaml⟩ := declaration?_eq_some.1 hrow
    exact ⟨mem_listAt.1 hmem, hyaml⟩
  · rintro ⟨hmem, hyaml⟩
    exact ⟨(name, .file content), mem_listAt.2 hmem, declaration?_eq_some.2 ⟨rfl, hyaml⟩⟩

theorem pairwise_declarationsAt (distinct : files.Distinct) :
    (declarationsAt files place).Pairwise fun a b => a.1 < b.1 := by
  refine List.pairwise_filterMap.2 ((pairwise_listAt distinct place).imp ?_)
  intro a b hab x hx y hy
  obtain ⟨rfl, -⟩ := declaration?_eq_some.1 hx
  obtain ⟨rfl, -⟩ := declaration?_eq_some.1 hy
  exact hab

theorem mem_directoriesAt (distinct : files.Distinct) {name : String} :
    name ∈ directoriesAt files place ↔ files.isDirectoryAt (place ++ [name]) = true := by
  rw [isDirectoryAt_iff, entryAt?_eq_some_iff distinct (by simp)]
  unfold directoriesAt
  constructor
  · intro h
    obtain ⟨⟨other, entry⟩, hmem, rfl⟩ := List.mem_map.1 h
    obtain ⟨hmem, hdirectory⟩ := List.mem_filter.1 hmem
    cases entry with
    | directory => exact mem_listAt.1 hmem
    | file content => cases hdirectory
  · intro hmem
    exact List.mem_map.2 ⟨(name, .directory), List.mem_filter.2 ⟨mem_listAt.2 hmem, rfl⟩, rfl⟩

theorem pairwise_directoriesAt (distinct : files.Distinct) :
    (directoriesAt files place).Pairwise (· < ·) :=
  List.pairwise_map.2 ((pairwise_listAt distinct place).filter _)

end Listings

/-! ## Sources -/

/-- A declaration file of a tree: the names of the directories that it lies in, from that of the
    tree, its own name, and its content. -/
structure Source where
  dir : Place
  name : String
  content : ByteArray

namespace Source

/-- The file of a source in a tree at a path. -/
def file (path : Path) (source : Source) : DeclarationFile :=
  fileIn (source.dir.foldl Path.child path) (source.name, source.content)

/-- Whether a source is a declaration file of the tree at a place: directories lead to it from there,
    and its extension is `yaml`. -/
structure StandsIn (files : FileTree) (root : Place) (source : Source) : Prop where
  leads : files.Leads root source.dir
  stands : files.fileAt? (root ++ source.dir ++ [source.name]) = some source.content
  yaml : Path.extensionOfName? source.name = some "yaml"

/-- Whether a source comes before another one: a directory's own files come first, in the order of
    their names, and then those of its subdirectories, in the order of theirs. -/
def Before (source other : Source) : Prop :=
  source.dir < other.dir ∨ source.dir = other.dir ∧ source.name < other.name

end Source

/-- The sources of a directory of a tree, down to the given depth. -/
def sourcesUnder (files : FileTree) (root : Place) : Nat → Place → List Source
  | 0, _ => []
  | depth + 1, dir =>
    ((declarationsAt files (root ++ dir)).map fun row => ⟨dir, row.1, row.2⟩) ++
      (directoriesAt files (root ++ dir)).flatMap fun name =>
        sourcesUnder files root depth (dir ++ [name])

section Sources

variable {files : FileTree} {root : Place}

theorem prefix_of_mem_sourcesUnder {depth : Nat} {dir : Place} {source : Source}
    (h : source ∈ sourcesUnder files root depth dir) : dir <+: source.dir := by
  induction depth generalizing dir with
  | zero => cases h
  | succ depth ih =>
    rcases List.mem_append.1 h with hfile | hbelow
    · obtain ⟨row, -, rfl⟩ := List.mem_map.1 hfile
      exact List.prefix_rfl
    · obtain ⟨name, -, hsource⟩ := List.mem_flatMap.1 hbelow
      exact (List.prefix_append dir [name]).trans (ih hsource)

/-- The sources of a directory are those that directories lead to from there. -/
theorem mem_sourcesUnder (distinct : files.Distinct) {depth : Nat} {dir : Place}
    (directory : files.isDirectoryAt (root ++ dir) = true) {source : Source} :
    source ∈ sourcesUnder files root depth dir ↔
      ∃ rest, source.dir = dir ++ rest ∧ rest.length < depth ∧
        files.Leads (root ++ dir) rest ∧
        files.fileAt? (root ++ source.dir ++ [source.name]) = some source.content ∧
        Path.extensionOfName? source.name = some "yaml" := by
  induction depth generalizing dir with
  | zero => simp [sourcesUnder]
  | succ depth ih =>
    unfold sourcesUnder
    rw [List.mem_append, List.mem_map, List.mem_flatMap]
    constructor
    · rintro (⟨row, hrow, rfl⟩ | ⟨name, hname, hsource⟩)
      · exact ⟨[], by simp, by simp, directory, (mem_declarationsAt distinct).1 hrow⟩
      · have hdirectory := (mem_directoriesAt distinct).1 hname
        rw [List.append_assoc] at hdirectory
        obtain ⟨rest, hdir, hlength, hleads, hstands⟩ := (ih hdirectory).1 hsource
        rw [← List.append_assoc] at hleads
        exact ⟨name :: rest, by simpa using hdir, by simpa using hlength, ⟨directory, hleads⟩,
          hstands⟩
    · rintro ⟨rest, hdir, hlength, hleads, hstands⟩
      cases rest with
      | nil =>
        obtain ⟨_, name, content⟩ := source
        obtain rfl : _ = dir := by simpa using hdir
        exact Or.inl ⟨(name, content), (mem_declarationsAt distinct).2 hstands, rfl⟩
      | cons name rest =>
        have hdirectory := hleads.2.isDirectoryAt
        refine Or.inr ⟨name, (mem_directoriesAt distinct).2 hdirectory, ?_⟩
        rw [List.append_assoc] at hdirectory
        refine (ih hdirectory).2 ⟨rest, by simpa using hdir, by simpa using hlength, ?_, hstands⟩
        rw [← List.append_assoc]
        exact hleads.2

/-- The sources of a directory are walked in their order. -/
theorem pairwise_sourcesUnder (distinct : files.Distinct) (depth : Nat) (dir : Place) :
    (sourcesUnder files root depth dir).Pairwise Source.Before := by
  induction depth generalizing dir with
  | zero => exact .nil
  | succ depth ih =>
    unfold sourcesUnder
    refine List.pairwise_append.2 ⟨?_, ?_, ?_⟩
    · refine List.pairwise_map.2 ((pairwise_declarationsAt distinct).imp fun hab => ?_)
      exact Or.inr ⟨rfl, hab⟩
    · refine List.pairwise_flatMap.2 ⟨fun name _ => ih _, ?_⟩
      refine (pairwise_directoriesAt distinct).imp fun {first second} hab => ?_
      intro source hsource other hother
      obtain ⟨rest, hrest⟩ := prefix_of_mem_sourcesUnder hsource
      obtain ⟨more, hmore⟩ := prefix_of_mem_sourcesUnder hother
      refine Or.inl ?_
      rw [← hrest, ← hmore, List.append_assoc, List.append_assoc]
      exact List.append_left_lt (List.cons_lt_cons_iff.2 (Or.inl hab))
    · intro source hsource other hother
      obtain ⟨row, -, rfl⟩ := List.mem_map.1 hsource
      obtain ⟨name, -, hother⟩ := List.mem_flatMap.1 hother
      obtain ⟨rest, hrest⟩ := prefix_of_mem_sourcesUnder hother
      refine Or.inl ?_
      have hlt : dir ++ [] < dir ++ name :: rest := List.append_left_lt (List.nil_lt_cons _ _)
      simpa [← hrest] using hlt

end Sources

/-! ## The whole tree -/

theorem length_le_longestPlace {files : FileTree} {row : Place × FileEntry}
    (h : row ∈ files.entries) : row.1.length ≤ longestPlace files := by
  have le_foldl : ∀ (lengths : List Nat) (start : Nat), start ≤ lengths.foldl max start ∧
      ∀ length ∈ lengths, length ≤ lengths.foldl max start := by
    intro lengths
    induction lengths with
    | nil => simp
    | cons first rest ih =>
      intro start
      obtain ⟨hstart, hrest⟩ := ih (max start first)
      refine ⟨by simp only [List.foldl_cons]; omega, List.forall_mem_cons.2 ⟨?_, hrest⟩⟩
      simp only [List.foldl_cons]
      omega
  exact (le_foldl _ 0).2 _ (List.mem_map_of_mem (f := fun row => row.1.length) h)

/-- No directory of a tree lies deeper than the walk goes. -/
theorem length_lt_of_entryAt? {files : FileTree} (distinct : files.Distinct) {root dir : Place}
    {name : String} {entry : FileEntry} (h : files.entryAt? (root ++ dir ++ [name]) = some entry) :
    dir.length < longestPlace files + 1 := by
  have hlength := length_le_longestPlace ((entryAt?_eq_some_iff distinct (by simp)).1 h)
  simp only [List.length_append, List.length_singleton] at hlength
  omega

/-- The sources of a directory are the declaration files of the tree there. -/
theorem mem_sourcesUnder_iff_standsIn {files : FileTree} (distinct : files.Distinct) {root : Place}
    (directory : files.isDirectoryAt root = true) {source : Source} :
    source ∈ sourcesUnder files root (longestPlace files + 1) [] ↔ source.StandsIn files root := by
  rw [mem_sourcesUnder distinct (by simpa using directory)]
  constructor
  · rintro ⟨rest, hdir, -, hleads, hstands, hyaml⟩
    obtain rfl : source.dir = rest := hdir
    exact ⟨by simpa using hleads, hstands, hyaml⟩
  · rintro ⟨hleads, hstands, hyaml⟩
    exact ⟨source.dir, rfl, length_lt_of_entryAt? distinct (fileAt?_eq_some_iff.1 hstands),
      by simpa using hleads, hstands, hyaml⟩

end DeclarationTree

end ResourceModel

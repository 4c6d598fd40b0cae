import Mathlib.Data.List.Basic
import ResourceModel.FileTree
import ResourceModel.Proofs.Path

set_option autoImplicit false

/-! # File trees

Where a path leads does not depend on the tree, only whether it can be followed does. So what a run
of writings leaves can be told place by place: a place holds the file that was written there last,
or the one that stood there before; directories stay, and new ones come only where the paths pass
that were written to. A directory lists what stands directly below it, in the order of the names. -/

namespace ResourceModel

/-- The place one component further, where every directory on the way exists. -/
def Component.next (place : Place) : Component → Place
  | .root => []
  | .here => place
  | .up => place.dropLast
  | .name text => place ++ [text]

namespace FileTree

/-! ## Places on the way -/

/-- The place that components lead to, where every directory on the way exists. -/
def placeAfter (place : Place) (components : List Component) : Place :=
  components.foldl Component.next place

/-- The place that a path leads to, where every directory on the way exists. -/
def placeOf (tree : FileTree) (path : Path) : Place :=
  placeAfter tree.work path.components

/-- The places from which a component is followed. -/
def passed (place : Place) : List Component → List Place
  | [] => []
  | component :: rest => place :: passed (component.next place) rest

/-- The places to which a component is followed. -/
def reached (place : Place) : List Component → List Place
  | [] => []
  | component :: rest => component.next place :: reached (component.next place) rest

theorem placeAfter_append (place : Place) (first second : List Component) :
    placeAfter place (first ++ second) = placeAfter (placeAfter place first) second :=
  List.foldl_append

theorem reached_append (place : Place) (first second : List Component) :
    reached place (first ++ second) =
      reached place first ++ reached (placeAfter place first) second := by
  induction first generalizing place with
  | nil => rfl
  | cons component rest ih => exact congrArg (_ :: ·) (ih _)

theorem placeAfter_names (place : Place) (names : List String) :
    placeAfter place (names.map .name) = place ++ names := by
  induction names generalizing place with
  | nil => exact (List.append_nil place).symm
  | cons name rest ih =>
    refine (ih (place ++ [name])).trans ?_
    simp

theorem prefix_of_mem_reached_names {place other : Place} {names : List String}
    (h : other ∈ reached place (names.map .name)) : place <+: other := by
  induction names generalizing place with
  | nil => simp [reached] at h
  | cons name rest ih =>
    rcases List.mem_cons.1 h with rfl | h
    · exact List.prefix_append place [name]
    · exact (List.prefix_append place [name]).trans (ih h)

theorem eq_next_of_follow? {tree : FileTree} {place next : Place} {component : Component}
    (h : tree.follow? place component = some next) : next = component.next place := by
  cases component with
  | root => exact (Option.some.inj h).symm
  | here => exact (Option.some.inj (Option.ite_none_right_eq_some.1 h).2).symm
  | up => exact (Option.some.inj (Option.ite_none_right_eq_some.1 h).2).symm
  | name text => exact (Option.some.inj (Option.ite_none_right_eq_some.1 h).2).symm

theorem eq_placeAfter_of_followAll? {tree : FileTree} {place last : Place}
    {components : List Component} (h : tree.followAll? place components = some last) :
    last = placeAfter place components := by
  induction components generalizing place with
  | nil => exact (Option.some.inj h).symm
  | cons component rest ih =>
    unfold followAll? at h
    split at h
    · next next hfollow =>
      rw [eq_next_of_follow? hfollow] at h
      exact ih h
    · simp at h

theorem eq_placeOf_of_locate? {tree : FileTree} {path : Path} {place : Place}
    (h : tree.locate? path = some place) : place = tree.placeOf path := by
  unfold locate? at h
  split at h
  · simp at h
  · exact eq_placeAfter_of_followAll? h

/-! ## Files -/

/-- The bytes of the file at a place. -/
def fileAt? (tree : FileTree) (place : Place) : Option ByteArray :=
  match tree.entryAt? place with
  | some (.file content) => some content
  | _ => none

theorem bytes?_eq (tree : FileTree) (path : Path) :
    tree.bytes? path =
      if path.namesDirectory then none else (tree.locate? path).bind tree.fileAt? := by
  unfold bytes? find?
  cases hplace : tree.locate? path with
  | none => simp
  | some place =>
    simp only [Option.bind_some, fileAt?]
    cases hentry : tree.entryAt? place with
    | none => simp
    | some entry =>
      cases entry with
      | directory => simp
      | file content => cases path.namesDirectory <;> simp

theorem isFile_eq (tree : FileTree) (path : Path) :
    tree.isFile path = (tree.bytes? path).isSome := by
  unfold isFile bytes?
  cases tree.find? path with
  | none => rfl
  | some entry => cases entry <;> rfl

/-! ## Putting an entry in place -/

theorem find?_putAt (rows : List (Place × FileEntry)) (place other : Place) (entry : FileEntry) :
    (putAt rows place entry).find? (fun row => row.1 = other) =
      if other = place then some (place, entry) else rows.find? fun row => row.1 = other := by
  induction rows with
  | nil =>
    unfold putAt
    by_cases hother : other = place
    · simp [hother]
    · simp [hother, Ne.symm hother]
  | cons old rest ih =>
    unfold putAt
    by_cases hold : old.1 = place
    · rw [if_pos hold, List.find?_cons, List.find?_cons]
      by_cases hother : other = place
      · simp [hother]
      · simp [hother, hold, Ne.symm hother]
    · rw [if_neg hold, List.find?_cons, List.find?_cons]
      by_cases hfound : old.1 = other
      · have hother : other ≠ place := fun heq => hold (hfound.trans heq)
        simp [hfound, hother]
      · simp only [hfound, decide_false]
        exact ih

theorem entryAt?_put (tree : FileTree) {place : Place} (entry : FileEntry) (below : place ≠ [])
    (other : Place) :
    (tree.put place entry).entryAt? other =
      if other = place then some entry else tree.entryAt? other := by
  unfold entryAt? put
  by_cases hroot : other = []
  · have hother : other ≠ place := fun heq => below (heq ▸ hroot)
    rw [if_pos hroot, if_neg hother, if_pos hroot]
  · rw [if_neg hroot, if_neg hroot, find?_putAt]
    split <;> rfl

theorem ne_nil_of_isDirectoryAt {tree : FileTree} {place : Place}
    (h : tree.isDirectoryAt place = false) : place ≠ [] := by
  rintro rfl
  simp [isDirectoryAt, entryAt?] at h

/-! ## Runs of writings -/

/-- Whether a tree comes from an earlier one by writing the given files, one after the other, and by
    making directories where one may be made. -/
structure Writes (made : Place → Prop) (tree : FileTree) (rows : List (Place × ByteArray))
    (later : FileTree) : Prop where
  work : later.work = tree.work
  kept : ∀ place, tree.isDirectoryAt place = true → later.isDirectoryAt place = true
  fresh : ∀ place, later.isDirectoryAt place = true → tree.isDirectoryAt place = true ∨ made place
  files : ∀ place, later.fileAt? place = (rows.reverse.lookup place).or (tree.fileAt? place)

namespace Writes

variable {made : Place → Prop} {tree later last : FileTree} {rows more : List (Place × ByteArray)}

theorem refl (made : Place → Prop) (tree : FileTree) : Writes made tree [] tree :=
  ⟨rfl, fun _ h => h, fun _ h => Or.inl h, fun _ => rfl⟩

theorem trans (first : Writes made tree rows later) (second : Writes made later more last) :
    Writes made tree (rows ++ more) last where
  work := second.work.trans first.work
  kept place h := second.kept place (first.kept place h)
  fresh place h := (second.fresh place h).elim (first.fresh place) Or.inr
  files place := by
    rw [second.files, first.files, List.reverse_append, List.lookup_append, Option.or_assoc]

theorem put_directory {place : Place} (free : tree.entryAt? place = none) (may : made place) :
    Writes made tree [] (tree.put place .directory) := by
  have below : place ≠ [] := by
    rintro rfl
    simp [entryAt?] at free
  have here := entryAt?_put tree .directory below
  refine ⟨rfl, fun other h => ?_, fun other h => ?_, fun other => ?_⟩
  · by_cases hother : other = place
    · simp [isDirectoryAt, here, hother]
    · simpa [isDirectoryAt, here, hother] using h
  · by_cases hother : other = place
    · exact Or.inr (hother ▸ may)
    · simp only [isDirectoryAt, here, if_neg hother] at h
      exact Or.inl h
  · by_cases hother : other = place
    · simp [fileAt?, here, hother, free]
    · simp [fileAt?, here, hother]

theorem put_file (made : Place → Prop) {place : Place} (content : ByteArray)
    (free : tree.isDirectoryAt place = false) :
    Writes made tree [(place, content)] (tree.put place (.file content)) := by
  have here := entryAt?_put tree (.file content) (ne_nil_of_isDirectoryAt free)
  refine ⟨rfl, fun other h => ?_, fun other h => ?_, fun other => ?_⟩
  · have hother : other ≠ place := by
      rintro rfl
      simp [h] at free
    simpa [isDirectoryAt, here, hother] using h
  · by_cases hother : other = place
    · simp [isDirectoryAt, here, hother] at h
    · simp only [isDirectoryAt, here, if_neg hother] at h
      exact Or.inl h
  · by_cases hother : other = place
    · simp [fileAt?, here, hother]
    · have hrow : [(place, content)].lookup other = none := by simp [hother]
      simp only [List.reverse_singleton, hrow, fileAt?, here, if_neg hother, Option.none_or]

/-! ### Following paths afterwards -/

theorem follow? (h : Writes made tree rows later) {place next : Place} {component : Component}
    (hfollow : tree.follow? place component = some next) :
    later.follow? place component = some next := by
  cases component with
  | root => exact hfollow
  | here =>
    obtain ⟨hdir, hnext⟩ := Option.ite_none_right_eq_some.1 hfollow
    exact Option.ite_none_right_eq_some.2 ⟨h.kept place hdir, hnext⟩
  | up =>
    obtain ⟨hdir, hnext⟩ := Option.ite_none_right_eq_some.1 hfollow
    exact Option.ite_none_right_eq_some.2 ⟨h.kept place hdir, hnext⟩
  | name text =>
    obtain ⟨hboth, hnext⟩ := Option.ite_none_right_eq_some.1 hfollow
    obtain ⟨hdir, hname⟩ := Bool.and_eq_true_iff.1 hboth
    exact Option.ite_none_right_eq_some.2
      ⟨Bool.and_eq_true_iff.2 ⟨h.kept place hdir, hname⟩, hnext⟩

theorem followAll? (h : Writes made tree rows later) {place last : Place}
    {components : List Component} (hfollow : tree.followAll? place components = some last) :
    later.followAll? place components = some last := by
  induction components generalizing place with
  | nil => exact hfollow
  | cons component rest ih =>
    unfold FileTree.followAll? at hfollow ⊢
    split at hfollow
    · next next hnext =>
      rw [h.follow? hnext]
      exact ih hfollow
    · simp at hfollow

theorem locate? (h : Writes made tree rows later) {path : Path} {place : Place}
    (hlocate : tree.locate? path = some place) : later.locate? path = some place := by
  unfold FileTree.locate? at hlocate ⊢
  split at hlocate
  · simp at hlocate
  · next husable =>
    rw [if_neg husable, h.work]
    exact h.followAll? hlocate

theorem placeOf (h : Writes made tree rows later) (path : Path) :
    later.placeOf path = tree.placeOf path := by
  unfold FileTree.placeOf
  rw [h.work]

/-- Components can be followed as before, if no directory was made on the way. -/
theorem followAll?_eq (h : Writes made tree rows later) {place : Place}
    {components : List Component}
    (clear : ∀ other ∈ passed place components, made other → tree.isDirectoryAt other = true) :
    later.followAll? place components = tree.followAll? place components := by
  induction components generalizing place with
  | nil => rfl
  | cons component rest ih =>
    have hdir : later.isDirectoryAt place = tree.isDirectoryAt place := by
      rw [Bool.eq_iff_iff]
      refine ⟨fun hlater => ?_, h.kept place⟩
      exact (h.fresh place hlater).elim id (clear place List.mem_cons_self)
    have hfollow : later.follow? place component = tree.follow? place component := by
      cases component <;> simp only [FileTree.follow?, hdir]
    unfold FileTree.followAll?
    rw [hfollow]
    cases hnext : tree.follow? place component with
    | none => rfl
    | some next =>
      obtain rfl := eq_next_of_follow? hnext
      exact ih fun other hother => clear other (List.mem_cons_of_mem _ hother)

/-- A path reads as before, if no directory was made on its way and no file written at its end. -/
theorem bytes?_eq_of_clear (h : Writes made tree rows later) {path : Path}
    (clear : ∀ other ∈ passed tree.work path.components, made other →
      tree.isDirectoryAt other = true)
    (unwritten : ∀ row ∈ rows, row.1 ≠ tree.placeOf path) :
    later.bytes? path = tree.bytes? path := by
  have hlocate : later.locate? path = tree.locate? path := by
    unfold FileTree.locate?
    rw [h.work, h.followAll?_eq clear]
  rw [bytes?_eq, bytes?_eq, hlocate]
  cases hplace : tree.locate? path with
  | none => rfl
  | some place =>
    have hnone : rows.reverse.lookup place = none := by
      refine List.lookup_eq_none_iff.2 fun row hrow => ?_
      rw [eq_placeOf_of_locate? hplace]
      exact bne_iff_ne.2 (unwritten row (List.mem_reverse.1 hrow)).symm
    simp only [Option.bind_some, h.files place, hnone, Option.none_or]

/-- What is read at a path that can be followed: the file that was written last at its place, or the
    one that stood there before. -/
theorem bytes?_of_locate? (h : Writes made tree rows later) {path : Path} {place : Place}
    (hlocate : later.locate? path = some place) (file : path.namesDirectory = false) :
    later.bytes? path = (rows.reverse.lookup place).or (tree.fileAt? place) := by
  rw [bytes?_eq, file, hlocate]
  exact h.files place

/-- Where a file is found at a path, there is the one afterwards that was written last at its place,
    or else the same. -/
theorem bytes?_of_bytes? (h : Writes made tree rows later) {path : Path} {content : ByteArray}
    (hbytes : tree.bytes? path = some content) :
    later.bytes? path = (rows.reverse.lookup (tree.placeOf path)).or (some content) := by
  rw [bytes?_eq] at hbytes
  obtain ⟨hfile, hfound⟩ := Option.ite_none_left_eq_some.1 hbytes
  obtain ⟨place, hlocate, hcontent⟩ := Option.bind_eq_some_iff.1 hfound
  rw [h.bytes?_of_locate? (h.locate? hlocate) (by simpa using hfile), hcontent,
    eq_placeOf_of_locate? hlocate]

/-- A file that is found at a path stays there, if nothing is written at its place. -/
theorem bytes?_of_unwritten (h : Writes made tree rows later) {path : Path} {content : ByteArray}
    (hbytes : tree.bytes? path = some content)
    (unwritten : ∀ row ∈ rows, row.1 ≠ tree.placeOf path) : later.bytes? path = some content := by
  have hnone : rows.reverse.lookup (tree.placeOf path) = none := by
    refine List.lookup_eq_none_iff.2 fun row hrow => bne_iff_ne.2 ?_
    exact (unwritten row (List.mem_reverse.1 hrow)).symm
  rw [h.bytes?_of_bytes? hbytes, hnone, Option.none_or]

end Writes

/-! ## Making directories and writing files -/

variable {made : Place → Prop}

theorem writes_enter {tree later : FileTree} {place : Place} {component : Component}
    {found : Option Place} (h : tree.enter place component = (found, later))
    (may : made (component.next place)) :
    Writes made tree [] later ∧ ∀ next ∈ found, next = component.next place := by
  unfold enter at h
  split at h
  · cases h
    exact ⟨.refl made tree, by simp⟩
  · next next hfollow =>
    obtain rfl := eq_next_of_follow? hfollow
    split at h
    · cases h
      exact ⟨.refl made tree, by simp⟩
    · cases h
      exact ⟨.refl made tree, by simp⟩
    · next hfree =>
      cases h
      exact ⟨.put_directory hfree may, by simp⟩

theorem writes_makeAll {tree : FileTree} {place : Place} {components : List Component}
    (may : ∀ other ∈ reached place components, made other) :
    Writes made tree [] (tree.makeAll place components).2 := by
  induction components generalizing tree place with
  | nil => exact .refl made tree
  | cons component rest ih =>
    obtain ⟨hnext, hrest⟩ := List.forall_mem_cons.1 may
    unfold makeAll
    rcases henter : tree.enter place component with ⟨found, middle⟩
    obtain ⟨hwrites, hplace⟩ := writes_enter henter hnext
    cases found with
    | none => exact hwrites
    | some next =>
      obtain rfl := hplace next rfl
      exact hwrites.trans (ih hrest)

theorem writes_makeDirectory {tree : FileTree} {path : Path}
    (may : ∀ other ∈ reached tree.work path.components, made other) :
    Writes made tree [] (tree.makeDirectory path).2 := by
  unfold makeDirectory
  split
  · exact writes_makeAll may
  · exact .refl made tree

theorem writes_makeParents {tree : FileTree} {path : Path}
    (may : ∀ parent, path.parent? = some parent →
      ∀ other ∈ reached tree.work parent.components, made other) :
    Writes made tree [] (tree.makeParents path).2 := by
  unfold makeParents
  split
  · exact .refl made tree
  · next parent hparent => exact writes_makeDirectory (may parent hparent)

/-- A file is written at the place of a path, which then can be followed. -/
theorem writes_writeFile? (made : Place → Prop) {tree later : FileTree} {path : Path}
    {content : ByteArray} (h : tree.writeFile? path content = some later) :
    Writes made tree [(tree.placeOf path, content)] later ∧
      later.locate? path = some (tree.placeOf path) ∧ path.namesDirectory = false := by
  unfold writeFile? at h
  split at h
  · simp at h
  · next hfile =>
    split at h
    · simp at h
    · next place hplace =>
      split at h
      · simp at h
      · next hfree =>
        cases h
        obtain rfl := eq_placeOf_of_locate? hplace
        have hwrites := Writes.put_file made content (Bool.eq_false_iff.2 hfree)
        exact ⟨hwrites, hwrites.locate? hplace, Bool.eq_false_iff.2 hfile⟩

/-! ## Listings -/

theorem nameLe_iff {a b : String} : nameLe a b = true ↔ a ≤ b := by
  rw [nameLe, Bool.not_eq_true', decide_eq_false_iff_not]
  exact String.not_lt

theorem nameBelow?_eq_some {place below : Place} {name : String} :
    nameBelow? place below = some name ↔ below = place ++ [name] := by
  unfold nameBelow?
  constructor
  · intro h
    obtain ⟨rfl, hlast⟩ := Option.ite_none_right_eq_some.1 h
    exact (List.dropLast_append_getLast? name hlast).symm
  · rintro rfl
    simp

theorem mem_listAt {tree : FileTree} {place : Place} {row : String × FileEntry} :
    row ∈ tree.listAt place ↔ (place ++ [row.1], row.2) ∈ tree.entries := by
  unfold listAt
  rw [List.mem_mergeSort, List.mem_filterMap]
  constructor
  · rintro ⟨entry, hentry, hrow⟩
    obtain ⟨name, hname, rfl⟩ := Option.map_eq_some_iff.1 hrow
    rw [← nameBelow?_eq_some.1 hname]
    exact hentry
  · intro hentry
    exact ⟨_, hentry, Option.map_eq_some_iff.2 ⟨row.1, nameBelow?_eq_some.2 rfl, rfl⟩⟩

theorem mem_list_iff {tree : FileTree} {dir : Path} {row : String × FileEntry} :
    row ∈ tree.list dir ↔ ∃ place, tree.locate? dir = some place ∧
      tree.isDirectoryAt place = true ∧ (place ++ [row.1], row.2) ∈ tree.entries := by
  unfold list
  cases tree.locate? dir with
  | none => simp
  | some place =>
    cases hdirectory : tree.isDirectoryAt place with
    | false => simp [hdirectory]
    | true => simp [hdirectory, mem_listAt]

theorem isUsable_of_append {path other : Path} {rest : String}
    (htext : other.text = path.text ++ rest) (h : isUsable other = true) :
    isUsable path = true := by
  unfold isUsable at h ⊢
  simp only [htext, String.utf8ByteSize_append, String.toList_append, Bool.and_eq_true,
    decide_eq_true_eq, Bool.not_eq_true', List.elem_eq_contains.symm, List.elem_eq_mem,
    decide_eq_false_iff_not, List.mem_append, not_or] at h ⊢
  exact ⟨by omega, h.2.1⟩

theorem followAll?_append (tree : FileTree) (place : Place) (first second : List Component) :
    tree.followAll? place (first ++ second) =
      (tree.followAll? place first).bind fun next => tree.followAll? next second := by
  induction first generalizing place with
  | nil => rfl
  | cons component rest ih =>
    simp only [List.cons_append, followAll?]
    cases tree.follow? place component with
    | none => rfl
    | some next => exact ih next

theorem isFile_iff {tree : FileTree} {path : Path} :
    tree.isFile path = true ↔ path.namesDirectory = false ∧
      ∃ place content, tree.locate? path = some place ∧
        tree.entryAt? place = some (.file content) := by
  rw [isFile_eq, bytes?_eq]
  cases path.namesDirectory with
  | true => simp
  | false =>
    simp only [Bool.false_eq_true, if_false, Option.isSome_iff_exists, Option.bind_eq_some_iff,
      true_and]
    constructor
    · rintro ⟨content, place, hplace, hfile⟩
      unfold fileAt? at hfile
      split at hfile
      · next found hentry =>
        cases hfile
        exact ⟨place, content, hplace, hentry⟩
      · cases hfile
    · rintro ⟨place, content, hplace, hentry⟩
      exact ⟨content, place, hplace, by simp [fileAt?, hentry]⟩

/-- The place of a path in a directory is directly below that of the directory. -/
theorem locate?_child {tree : FileTree} {dir : Path} {name : String} {place : Place}
    (nonempty : dir.text ≠ "") (segment : Path.Segment name)
    (h : tree.locate? (dir.child name) = some place) :
    ∃ parent, tree.locate? dir = some parent ∧ tree.isDirectoryAt parent = true ∧
      place = parent ++ [name] := by
  have hcomponents : (dir.child name).components = dir.components ++ [.name name] :=
    Path.components_join segment.splitParts_eq (by simpa using segment)
  obtain ⟨rest, htext⟩ := Path.text_child (p := dir)
    (Path.not_isAbsolute_of_splitParts segment.splitParts_eq segment.ne_empty)
  unfold locate? at h ⊢
  obtain ⟨husable, hfollow⟩ := Option.ite_none_left_eq_some.1 h
  simp only [Bool.or_eq_true, not_or, Bool.not_eq_true', Bool.not_eq_false] at husable
  rw [hcomponents, followAll?_append] at hfollow
  obtain ⟨parent, hparent, hlast⟩ := Option.bind_eq_some_iff.1 hfollow
  rw [if_neg (by simp [nonempty, isUsable_of_append htext husable.2]), hparent]
  refine ⟨parent, rfl, ?_⟩
  simp only [followAll?, follow?] at hlast
  split at hlast
  · next next hnext =>
    obtain ⟨hdirectory, heq⟩ := Option.ite_none_right_eq_some.1 hnext
    cases heq
    cases hlast
    exact ⟨(Bool.and_eq_true_iff.1 hdirectory).1, rfl⟩
  · cases hlast

/-- There is no file below a directory that cannot be come to. -/
theorem isFile_child_of_unreached {tree : FileTree} {dir : Path} {name : String}
    (unreached : tree.followAll? tree.work dir.components = none)
    (relative : (⟨name⟩ : Path).isAbsolute = false) : tree.isFile (dir.child name) = false := by
  have hfollow : tree.followAll? tree.work (dir.child name).components = none := by
    rcases Path.text_join dir relative with ⟨hempty, -⟩ | ⟨front, htext, hfront⟩
    · have hnone : (⟨""⟩ : Path).components = [] := by decide
      have hdir : dir = ⟨""⟩ := congrArg Path.mk hempty
      rw [hdir, hnone] at unreached
      cases unreached
    · have hchild : dir.child name = ⟨front ++ "/" ++ name⟩ := congrArg Path.mk htext
      rw [hchild, Path.components_slash, hfront, followAll?_append, unreached]
      rfl
  refine Bool.eq_false_iff.2 fun h => ?_
  obtain ⟨-, place, -, hplace, -⟩ := isFile_iff.1 h
  have hsome := (Option.ite_none_left_eq_some.1 hplace).2
  rw [hfollow] at hsome
  cases hsome

/-- Whether the names of the directories and files in a tree hold no slash. -/
def Slashless (tree : FileTree) : Prop :=
  ∀ row ∈ tree.entries, ∀ name ∈ row.1, '/' ∉ name.toList

theorem Slashless.of_mem_list {tree : FileTree} (h : tree.Slashless) {dir : Path}
    {row : String × FileEntry} (hrow : row ∈ tree.list dir) : '/' ∉ row.1.toList := by
  obtain ⟨place, -, -, hentry⟩ := mem_list_iff.1 hrow
  exact h _ hentry row.1 (by simp)

/-- A directory lists the files that stand in it. -/
theorem listed_of_isFile {tree : FileTree} {dir : Path} {name : String} (nonempty : dir.text ≠ "")
    (segment : Path.Segment name) (h : tree.isFile (dir.child name) = true) :
    ∃ entry, (name, entry) ∈ tree.list dir := by
  obtain ⟨-, place, content, hplace, hentry⟩ := isFile_iff.1 h
  obtain ⟨parent, hparent, hdirectory, rfl⟩ := locate?_child nonempty segment hplace
  refine ⟨.file content, mem_list_iff.2 ⟨parent, hparent, hdirectory, ?_⟩⟩
  unfold entryAt? at hentry
  rw [if_neg (by simp)] at hentry
  obtain ⟨row, hrow, hfile⟩ := Option.map_eq_some_iff.1 hentry
  have hsame := List.find?_some hrow
  simp only [decide_eq_true_eq] at hsame
  rw [← hsame, ← hfile]
  exact List.mem_of_find?_eq_some hrow

/-! ### Entries that stand in order -/

/-- The names of what stands directly below a place, as they stand in the tree. -/
def storedAt (tree : FileTree) (place : Place) : List (String × FileEntry) :=
  tree.entries.filterMap fun entry => (nameBelow? place entry.1).map fun name => (name, entry.2)

/-- Whether the entries of each directory stand in ascending order. -/
def InOrder (tree : FileTree) : Prop :=
  tree.entries.Pairwise fun a b =>
    a.1.dropLast = b.1.dropLast → ∀ first ∈ a.1.getLast?, ∀ second ∈ b.1.getLast?,
      nameLe first second = true

instance (tree : FileTree) : Decidable tree.InOrder :=
  inferInstanceAs (Decidable (List.Pairwise _ _))

theorem listAt_of_inOrder {tree : FileTree} (h : tree.InOrder) (place : Place) :
    tree.listAt place = tree.storedAt place := by
  refine List.mergeSort_of_pairwise ?_
  refine List.pairwise_filterMap.2 (h.imp ?_)
  intro a b hab x hx y hy
  obtain ⟨first, hfirst, rfl⟩ := Option.map_eq_some_iff.1 hx
  obtain ⟨second, hsecond, rfl⟩ := Option.map_eq_some_iff.1 hy
  obtain ⟨ha, hfirst⟩ := Option.ite_none_right_eq_some.1 hfirst
  obtain ⟨hb, hsecond⟩ := Option.ite_none_right_eq_some.1 hsecond
  exact hab (ha.trans hb.symm) first hfirst second hsecond

end FileTree

end ResourceModel

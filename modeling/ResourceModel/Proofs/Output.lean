import Mathlib.Data.List.Dedup
import ResourceModel.Output
import ResourceModel.Proofs.FileTree
import ResourceModel.Proofs.Path
import ResourceModel.Proofs.Step

set_option autoImplicit false

/-! # What was written below a root

What a run of writings leaves: each path holds what was written last at the place that it leads to,
and the records are those of the paths in the order in which they came first, one for each list of
components. -/

namespace ResourceModel

/-! ## Records -/

namespace Artifacts

/-- The components of the recorded paths. -/
def recorded (records : List Artifact) : List (List Component) :=
  records.map fun record => record.path.components

theorem recordIn_of_not_mem {records : List Artifact} {path : Path} (checksum : String)
    (h : path.components ∉ recorded records) :
    recordIn records path checksum = records ++ [⟨path, checksum⟩] := by
  induction records with
  | nil => rfl
  | cons old rest ih =>
    simp only [recorded, List.map_cons, List.mem_cons, not_or] at h
    unfold recordIn
    rw [if_neg (Ne.symm h.1), ih h.2, List.cons_append]

theorem recorded_recordIn (records : List Artifact) (path : Path) (checksum : String) :
    recorded (recordIn records path checksum) =
      if path.components ∈ recorded records then recorded records
      else recorded records ++ [path.components] := by
  split
  · next h =>
    induction records with
    | nil => simp [recorded] at h
    | cons old rest ih =>
      unfold recordIn
      split
      · rfl
      · next hne =>
        have hrest := (List.mem_cons.1 h).resolve_left (Ne.symm hne)
        exact congrArg (old.path.components :: ·) (ih hrest)
  · next h =>
    rw [recordIn_of_not_mem checksum h]
    simp [recorded]

/-- The records after writing bytes at the given paths, one after the other. -/
def recordAll (records : List Artifact) (writes : List (String × ByteArray)) : List Artifact :=
  writes.foldl (fun records row => recordIn records ⟨row.1⟩ (Sha256.hex row.2)) records

/-- The components of the paths that are written to. -/
def targets (writes : List (String × ByteArray)) : List (List Component) :=
  writes.map fun row => (⟨row.1⟩ : Path).components

theorem recorded_recordAll (records : List Artifact) (writes : List (String × ByteArray))
    (h : (recorded records).Nodup) :
    (recorded (recordAll records writes)).Nodup ∧ ∀ components,
      components ∈ recorded (recordAll records writes) ↔
        components ∈ recorded records ∨ components ∈ targets writes := by
  induction writes generalizing records with
  | nil => exact ⟨h, by simp [recordAll, targets]⟩
  | cons row rest ih =>
    have hrow := recorded_recordIn records ⟨row.1⟩ (Sha256.hex row.2)
    have hnodup : (recorded (recordIn records ⟨row.1⟩ (Sha256.hex row.2))).Nodup := by
      rw [hrow]
      split
      · exact h
      · next hnew => exact List.concat_eq_append ▸ h.concat hnew
    obtain ⟨hafter, hmem⟩ := ih _ hnodup
    refine ⟨hafter, fun components => (hmem components).trans ?_⟩
    rw [hrow]
    split
    · next hold =>
      simp only [targets, List.map_cons, List.mem_cons]
      constructor
      · exact Or.imp id Or.inr
      · rintro (h | rfl | h)
        · exact Or.inl h
        · exact Or.inl hold
        · exact Or.inr h
    · simp only [targets, List.map_cons, List.mem_cons, List.mem_append, List.not_mem_nil, or_false,
        or_assoc]

/-- Of files that were written from nothing there are as many records as paths with different
    components. -/
theorem length_recordAll (writes : List (String × ByteArray)) :
    (recordAll [] writes).length = (targets writes).dedup.length := by
  obtain ⟨hnodup, hmem⟩ := recorded_recordAll [] writes List.nodup_nil
  have hperm : (recorded (recordAll [] writes)).Perm (targets writes).dedup := by
    refine (List.perm_ext_iff_of_nodup hnodup (List.nodup_dedup _)).2 fun components => ?_
    rw [hmem, List.mem_dedup]
    simp [recorded]
  have hlength := hperm.length_eq
  unfold recorded at hlength
  rwa [List.length_map] at hlength

/-- There is a record for each writing exactly if no two of them were to the same components. -/
theorem length_recordAll_eq_iff (writes : List (String × ByteArray)) :
    (recordAll [] writes).length = writes.length ↔ (targets writes).Nodup := by
  rw [length_recordAll, ← List.dedup_eq_self]
  constructor
  · intro h
    refine (List.dedup_sublist _).eq_of_length (h.trans ?_)
    exact (List.length_map _).symm
  · intro h
    rw [h]
    exact List.length_map _

/-- Where no two writings are to the same components, every one of them has its record. -/
theorem recordAll_of_nodup (records : List Artifact) (writes : List (String × ByteArray))
    (h : (recorded records ++ targets writes).Nodup) :
    recordAll records writes =
      records ++ writes.map fun row => ⟨⟨row.1⟩, Sha256.hex row.2⟩ := by
  induction writes generalizing records with
  | nil => simp [recordAll]
  | cons row rest ih =>
    have hnew : (⟨row.1⟩ : Path).components ∉ recorded records := fun hmem =>
      (List.nodup_append.1 h).2.2 _ hmem _ List.mem_cons_self rfl
    have hrow := recordIn_of_not_mem (Sha256.hex row.2) hnew
    have hnodup : (recorded (records ++ [⟨⟨row.1⟩, Sha256.hex row.2⟩]) ++ targets rest).Nodup := by
      simpa [recorded, targets] using h
    unfold recordAll
    rw [List.foldl_cons, hrow]
    refine (ih _ hnodup).trans ?_
    simp

/-- A writing with success made the directories above its path and put the file there. -/
theorem write_of_outcome {artifacts : Artifacts} {files : FileTree} {path target : Path}
    {content : ByteArray} (h : (artifacts.write files path content).outcome = .ok target) :
    ∃ parents later, files.makeParents (artifacts.root.join path) = (true, parents) ∧
      parents.writeFile? (artifacts.root.join path) content = some later ∧
      artifacts.write files path content =
        ⟨.ok (artifacts.root.join path), artifacts.record path content, later⟩ := by
  unfold write at h ⊢
  generalize artifacts.record path content = recorded at h ⊢
  generalize artifacts.root.join path = place at h ⊢
  dsimp only at h ⊢
  split at h
  · cases h
  · next parents hmake =>
    split at h
    · next later hfile => exact ⟨parents, later, hmake, hfile, rfl⟩
    · cases h

end Artifacts

namespace Output

/-- The place that a path below the root leads to. -/
def placeOf (output : Output) (path : String) : Place :=
  output.files.placeOf (output.artifacts.root.join ⟨path⟩)

/-- The bytes at a path below the root. -/
def bytes? (output : Output) (path : String) : Option ByteArray :=
  output.files.bytes? (output.artifacts.root.join ⟨path⟩)

/-! ## Runs of writings -/

/-- The places and bytes of writings. -/
def rows (output : Output) (writes : List (String × ByteArray)) : List (Place × ByteArray) :=
  writes.map fun row => (output.placeOf row.1, row.2)

/-- Whether an output comes from an earlier one by writing bytes at the given paths, one after the
    other, and by making directories where one may be made. -/
structure Wrote (made : Place → Prop) (output : Output) (writes : List (String × ByteArray))
    (final : Output) : Prop where
  root : final.artifacts.root = output.artifacts.root
  records : final.artifacts.written = Artifacts.recordAll output.artifacts.written writes
  files : output.files.Writes made (output.rows writes) final.files
  found : ∀ row ∈ writes,
    final.files.locate? (output.artifacts.root.join ⟨row.1⟩) = some (output.placeOf row.1) ∧
      (output.artifacts.root.join ⟨row.1⟩).namesDirectory = false

namespace Wrote

variable {made : Place → Prop} {output middle final : Output}
  {writes more : List (String × ByteArray)}

theorem refl (made : Place → Prop) (output : Output) : Wrote made output [] output :=
  ⟨rfl, rfl, .refl made output.files, by simp⟩

theorem placeOf_eq (h : Wrote made output writes final) (path : String) :
    final.placeOf path = output.placeOf path := by
  unfold Output.placeOf
  rw [h.root, h.files.placeOf]

theorem trans (first : Wrote made output writes middle) (second : Wrote made middle more final) :
    Wrote made output (writes ++ more) final where
  root := second.root.trans first.root
  records := by
    rw [second.records, first.records]
    exact (List.foldl_append).symm
  files := by
    have hrows : middle.rows more = output.rows more := by
      unfold Output.rows
      simp only [first.placeOf_eq]
    have hfiles := first.files.trans second.files
    rw [hrows] at hfiles
    unfold Output.rows at hfiles ⊢
    rwa [List.map_append]
  found row hrow := by
    rcases List.mem_append.1 hrow with hrow | hrow
    · exact ⟨second.files.locate? (first.found row hrow).1, (first.found row hrow).2⟩
    · have hfound := second.found row hrow
      rwa [first.root, first.placeOf_eq] at hfound

/-- What a written path holds: the bytes that were written last at its place. -/
theorem bytes?_eq (h : Wrote made output writes final) {row : String × ByteArray}
    (hrow : row ∈ writes) :
    final.bytes? row.1 = (output.rows writes).reverse.lookup (output.placeOf row.1) := by
  obtain ⟨hlocate, hfile⟩ := h.found row hrow
  unfold Output.bytes?
  rw [h.root, h.files.bytes?_of_locate? hlocate hfile]
  refine Option.or_eq_left_of_isSome ?_
  rw [← Option.ne_none_iff_isSome]
  intro hnone
  have hmem : (output.placeOf row.1, row.2) ∈ (output.rows writes).reverse :=
    List.mem_reverse.2 (List.mem_map.2 ⟨row, hrow, rfl⟩)
  have := List.lookup_eq_none_iff.1 hnone _ hmem
  simp at this

end Wrote

/-! ## Single writings -/

variable {made : Place → Prop} {output final : Output}

/-- Whether every directory above a path below the root may be made. -/
def Allows (made : Place → Prop) (output : Output) (path : String) : Prop :=
  ∀ parent, (output.artifacts.root.join ⟨path⟩).parent? = some parent →
    ∀ place ∈ FileTree.reached output.files.work parent.components, made place

theorem allows_any (output : Output) (path : String) : Allows (fun _ => True) output path :=
  fun _ _ _ _ => trivial

theorem Wrote.allows_iff {writes : List (String × ByteArray)} (h : Wrote made output writes final)
    (path : String) : Allows made final path ↔ Allows made output path := by
  unfold Allows
  rw [h.root, h.files.work]

theorem ofWritten_eq_ok {written : Artifacts.Written} {target : Path} :
    ofWritten written output = .ok target final ↔
      written.outcome = .ok target ∧ final = ⟨written.artifacts, written.files⟩ := by
  unfold ofWritten
  cases written.outcome with
  | ok path => simp [eq_comm]
  | error error => simp

theorem wrote_ofWritten {path : String} {content : ByteArray} {target : Path}
    (allows : Allows made output path)
    (h : ofWritten (output.artifacts.write output.files ⟨path⟩ content) output =
      .ok target final) :
    Wrote made output [(path, content)] final := by
  obtain ⟨houtcome, rfl⟩ := ofWritten_eq_ok.1 h
  obtain ⟨parents, later, hmake, hfile, hwritten⟩ := Artifacts.write_of_outcome houtcome
  have hparents := FileTree.writes_makeParents allows
  rw [hmake] at hparents
  obtain ⟨hwrites, hlocate, hname⟩ := FileTree.writes_writeFile? made hfile
  rw [hparents.placeOf] at hwrites hlocate
  rw [hwritten]
  refine ⟨rfl, rfl, hparents.trans hwrites, ?_⟩
  intro row hrow
  obtain rfl := List.mem_singleton.1 hrow
  exact ⟨hlocate, hname⟩

theorem wrote_write {path text : String} {target : Path} (allows : Allows made output path)
    (h : write path text output = .ok target final) :
    Wrote made output [(path, text.toUTF8)] final :=
  wrote_ofWritten allows h

theorem wrote_copy {source : Path} {path : String} {target : Path}
    (allows : Allows made output path)
    (h : copy source path output = .ok target final) :
    ∃ content, output.files.bytes? source = some content ∧
      Wrote made output [(path, content)] final := by
  unfold copy Artifacts.copy at h
  cases hsource : output.files.bytes? source with
  | none => simp [ofWritten, hsource] at h
  | some content =>
    rw [hsource] at h
    exact ⟨content, rfl, wrote_ofWritten allows h⟩

/-! ## Paths below the root -/

/-- The place of the root. -/
def rootPlace (output : Output) : Place :=
  output.files.placeOf output.artifacts.root

/-- Whether a directory may be made for what is written below the root: it lies on the way to the
    root, or it is the root or lies below it. -/
def MayMake (output : Output) (place : Place) : Prop :=
  place ∈ FileTree.reached output.files.work output.artifacts.root.components ∨
    output.rootPlace <+: place

/-- The path of a file in a directory below a root, each part of it a name. -/
def IsFilePath (path : String) : Prop :=
  ∃ dir name, path = dir ++ "/" ++ name ∧ (∀ part ∈ splitParts dir '/', Path.Segment part) ∧
    Path.Segment name

theorem IsFilePath.segments {path : String} (h : IsFilePath path) :
    ∀ part ∈ splitParts path '/', Path.Segment part := by
  obtain ⟨dir, name, rfl, hdir, hname⟩ := h
  rw [splitParts_slash, hname.splitParts_eq]
  exact List.forall_mem_append.2 ⟨hdir, List.forall_mem_singleton.2 hname⟩

theorem placeOf_of_segments {path : String}
    (segments : ∀ part ∈ splitParts path '/', Path.Segment part) (output : Output) :
    output.placeOf path = output.rootPlace ++ splitParts path '/' := by
  unfold placeOf rootPlace FileTree.placeOf
  rw [Path.components_join rfl segments, FileTree.placeAfter_append, FileTree.placeAfter_names]

theorem IsFilePath.placeOf_eq {path : String} (h : IsFilePath path) (output : Output) :
    output.placeOf path = output.rootPlace ++ splitParts path '/' :=
  placeOf_of_segments h.segments output

/-- A file in a directory below the root is none that lies directly below it. -/
theorem IsFilePath.placeOf_ne {path name : String} (h : IsFilePath path)
    (segment : Path.Segment name) (output : Output) :
    output.placeOf name ≠ output.placeOf path := by
  have hname : output.placeOf name = output.rootPlace ++ [name] := by
    rw [placeOf_of_segments (by simpa [segment.splitParts_eq] using segment), segment.splitParts_eq]
  rw [hname, h.placeOf_eq]
  obtain ⟨dir, last, rfl, -, hlast⟩ := h
  rw [splitParts_slash, hlast.splitParts_eq]
  intro heq
  have hlength := congrArg List.length (List.append_cancel_left heq)
  have hdir := List.length_pos_of_ne_nil (splitParts_ne_nil dir '/')
  simp only [List.length_append, List.length_singleton] at hlength
  omega

theorem IsFilePath.allows {path : String} (h : IsFilePath path) (output : Output) :
    output.Allows output.MayMake path := by
  obtain ⟨dir, name, rfl, hdir, hname⟩ := h
  intro parent hparent place hplace
  rw [Path.parent?_join rfl hdir hname] at hparent
  obtain rfl := Option.some.inj hparent
  rw [Path.components_join rfl hdir, FileTree.reached_append] at hplace
  rcases List.mem_append.1 hplace with hroot | hbelow
  · exact Or.inl hroot
  · exact Or.inr (FileTree.prefix_of_mem_reached_names hbelow)

theorem IsFilePath.placeOf_inj {first second : String} (hfirst : IsFilePath first)
    (hsecond : IsFilePath second) {output : Output}
    (h : output.placeOf first = output.placeOf second) : first = second := by
  rw [hfirst.placeOf_eq, hsecond.placeOf_eq] at h
  rw [← intercalate_splitParts first, ← intercalate_splitParts second,
    List.append_cancel_left h]

theorem IsFilePath.components_inj {first second : String} (hfirst : IsFilePath first)
    (hsecond : IsFilePath second)
    (h : (⟨first⟩ : Path).components = (⟨second⟩ : Path).components) : first = second := by
  rw [Path.components_of_segments rfl hfirst.segments,
    Path.components_of_segments rfl hsecond.segments] at h
  have hparts : splitParts first '/' = splitParts second '/' :=
    List.map_injective_iff.2 (fun _ _ heq => Component.name.inj heq) h
  rw [← intercalate_splitParts first, ← intercalate_splitParts second, hparts]

namespace Wrote

variable {writes : List (String × ByteArray)}

/-- A file that was written is found with its bytes, if all paths are different. -/
theorem bytes?_of_nodup (h : Wrote made output writes final)
    (files : ∀ path ∈ writes.map Prod.fst, IsFilePath path) (nodup : (writes.map Prod.fst).Nodup)
    {row : String × ByteArray} (hrow : row ∈ writes) : final.bytes? row.1 = some row.2 := by
  have hpaths : ∀ row ∈ writes, IsFilePath row.1 := fun row hmem =>
    files row.1 (List.mem_map_of_mem hmem)
  have hplaces : (writes.map fun row => output.placeOf row.1).Nodup := by
    rw [← Function.comp_def output.placeOf Prod.fst, ← List.map_map]
    refine nodup.map_on fun first hfirst second hsecond heq => ?_
    exact (files first hfirst).placeOf_inj (files second hsecond) heq
  rw [h.bytes?_eq hrow]
  have hmem : (output.placeOf row.1, row.2) ∈ (output.rows writes).reverse :=
    List.mem_reverse.2 (List.mem_map.2 ⟨row, hrow, rfl⟩)
  obtain ⟨front, back, hsplit⟩ := List.append_of_mem hmem
  have hkeys : ((output.rows writes).reverse.map Prod.fst).Nodup := by
    rw [List.map_reverse, List.nodup_reverse]
    simpa [rows, Function.comp_def] using hplaces
  rw [hsplit, List.map_append, List.map_cons] at hkeys
  refine List.lookup_eq_some_iff.2 ⟨front, back, hsplit, fun other hother => ?_⟩
  refine bne_iff_ne.2 fun heq => ?_
  exact (List.nodup_append.1 hkeys).2.2 _ (List.mem_map_of_mem hother) _ List.mem_cons_self heq.symm

/-- Of files that are written from nothing there is a record for each path, in their order, if all
    paths are different. -/
theorem written_of_nodup (h : Wrote made output writes final)
    (fresh : output.artifacts.written = [])
    (files : ∀ path ∈ writes.map Prod.fst, IsFilePath path)
    (nodup : (writes.map Prod.fst).Nodup) :
    final.artifacts.written = writes.map fun row => ⟨⟨row.1⟩, Sha256.hex row.2⟩ := by
  have htargets : (Artifacts.targets writes).Nodup := by
    have hmap : Artifacts.targets writes =
        (writes.map Prod.fst).map fun path => (⟨path⟩ : Path).components := by
      rw [List.map_map]
      rfl
    rw [hmap]
    refine nodup.map_on fun first hfirst second hsecond heq => ?_
    exact (files first hfirst).components_inj (files second hsecond) heq
  rw [h.records, fresh]
  exact Artifacts.recordAll_of_nodup [] writes htargets

end Wrote

end Output

end ResourceModel

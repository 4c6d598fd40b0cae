import ResourceModel.Proofs.Output
import ResourceModel.Proofs.Text.Bytes

set_option autoImplicit false

/-! # The record of the written files

As long as nothing else changes the files below the root, the record agrees with them: each recorded
path has the checksum of the bytes that it holds now. A writing with success is recorded, one that
fails is not. The listing has a line for each recorded path, in the order of the bytes of the paths;
after the checksum, which always has the same length, the path begins at the same byte of each
line. -/

namespace ResourceModel

/-! ## Checksums -/

namespace Sha256

/-- The characters of a checksum. -/
def digits : List Char := "0123456789abcdef".toList

theorem digitChar_mem_digits {n : Nat} (h : n < 16) : Nat.digitChar n ∈ digits := by
  have all : ∀ n < 16, Nat.digitChar n ∈ digits := by decide
  exact all n h

theorem wordHex_digits (w : UInt32) : (wordHex w).length = 8 ∧ ∀ c ∈ wordHex w, c ∈ digits := by
  unfold wordHex
  refine ⟨by simp, fun c hc => ?_⟩
  obtain ⟨i, -, rfl⟩ := List.mem_map.1 hc
  exact digitChar_mem_digits (Nat.mod_lt _ (by decide))

theorem flatMap_wordHex_digits (words : List UInt32) :
    (words.flatMap wordHex).length = 8 * words.length ∧
      ∀ c ∈ words.flatMap wordHex, c ∈ digits := by
  induction words with
  | nil => simp
  | cons w rest ih =>
    obtain ⟨hlength, hdigits⟩ := wordHex_digits w
    rw [List.flatMap_cons]
    refine ⟨?_, List.forall_mem_append.2 ⟨hdigits, ih.2⟩⟩
    rw [List.length_append, hlength, ih.1, List.length_cons]
    omega

/-- A checksum has 64 digits. -/
theorem hex_digits (content : ByteArray) :
    (hex content).toList.length = 64 ∧ ∀ c ∈ (hex content).toList, c ∈ digits := by
  unfold hex
  simp only [String.toList_ofList]
  exact flatMap_wordHex_digits [_, _, _, _, _, _, _, _]

theorem utf8Size_of_mem_digits {c : Char} (h : c ∈ digits) : c.utf8Size = 1 := by
  have all : ∀ c ∈ digits, c.utf8Size = 1 := by decide
  exact all c h

end Sha256

namespace Artifacts

/-! ## Calls -/

/-- What can be asked of the artifacts below a root. -/
inductive Call where
  | write (path : Path) (content : ByteArray)
  | copy (source path : Path)

namespace Call

/-- The path below the root at which a call writes. -/
def path : Call → Path
  | write path _ => path
  | copy _ path => path

/-- The bytes that a call writes. -/
def content? (files : FileTree) : Call → Option ByteArray
  | write _ content => some content
  | copy source _ => files.bytes? source

/-- What a call answers. -/
def run (output : Output) : Call → Written
  | write path content => output.artifacts.write output.files path content
  | copy source path => output.artifacts.copy output.files source path

/-- The artifacts and files after a call. -/
def after (call : Call) (output : Output) : Output :=
  ⟨(call.run output).artifacts, (call.run output).files⟩

/-- Whether the path of a call consists of names and is not that of the listing. -/
structure Ordinary (call : Call) : Prop where
  names : call.path.Ordinary
  other : call.path.components ≠ [.name listingName]

theorem run_of_content? {call : Call} {output : Output} {content : ByteArray}
    (h : call.content? output.files = some content) :
    call.run output = output.artifacts.write output.files call.path content := by
  cases call with
  | write path bytes =>
    cases h
    rfl
  | copy source path =>
    have hsource : output.files.bytes? source = some content := h
    simp only [run, Artifacts.copy, hsource, Call.path]

theorem run_of_content?_eq_none {call : Call} {output : Output}
    (h : call.content? output.files = none) :
    call.run output = ⟨.error .file, output.artifacts, output.files⟩ := by
  cases call with
  | write path bytes => cases h
  | copy source path =>
    have hsource : output.files.bytes? source = none := h
    simp only [run, Artifacts.copy, hsource]

end Call

/-- The artifacts and files after calls with ordinary paths, one after the other, whether they
    succeed or fail. Between them the files may change, but those below the root stay. -/
inductive Logged (root : Path) : Output → Prop where
  | start (files : FileTree) : Logged root (.start root files)
  | call {output : Output} (before : Logged root output) (call : Call) (ordinary : call.Ordinary) :
      Logged root (call.after output)
  | elsewhere {output : Output} (before : Logged root output) (files : FileTree)
      (same : ∀ path : Path, path.Ordinary → ∀ content,
        output.files.bytes? (root.join path) = some content →
          files.bytes? (root.join path) = some content) :
      Logged root ⟨output.artifacts, files⟩

/-! ## Places below the root -/

theorem placeOf_join {path : Path} {names : List String} (h : path.components = names.map .name)
    (files : FileTree) (root : Path) :
    files.placeOf (root.join path) = files.placeOf root ++ names := by
  have ordinary : path.Ordinary := ⟨names, h⟩
  unfold FileTree.placeOf
  rw [ordinary.components_join, FileTree.placeAfter_append, h, FileTree.placeAfter_names]

/-- Paths with the same place below a root have the same components. -/
theorem components_of_placeOf {first second : Path} (hfirst : first.Ordinary)
    (hsecond : second.Ordinary) {files : FileTree} {root : Path}
    (h : files.placeOf (root.join first) = files.placeOf (root.join second)) :
    first.components = second.components := by
  obtain ⟨names, hnames⟩ := hfirst
  obtain ⟨others, hothers⟩ := hsecond
  rw [placeOf_join hnames, placeOf_join hothers] at h
  rw [hnames, hothers, List.append_cancel_left h]

theorem placeOf_of_components {first second : Path} (hfirst : first.Ordinary)
    (h : first.components = second.components) (files : FileTree) (root : Path) :
    files.placeOf (root.join first) = files.placeOf (root.join second) := by
  obtain ⟨names, hnames⟩ := hfirst
  rw [placeOf_join hnames, placeOf_join (h ▸ hnames)]

/-! ## Writing -/

/-- A writing succeeds and is recorded, or it fails and only makes directories. -/
theorem write_cases (output : Output) (path : Path) (content : ByteArray) :
    (∃ later, output.artifacts.write output.files path content =
        ⟨.ok (output.artifacts.root.join path), output.artifacts.record path content, later⟩ ∧
      output.files.Writes (fun _ => True)
        [(output.files.placeOf (output.artifacts.root.join path), content)] later ∧
      later.bytes? (output.artifacts.root.join path) = some content) ∨
    ∃ later, output.artifacts.write output.files path content =
        ⟨.error .file, output.artifacts, later⟩ ∧
      output.files.Writes (fun _ => True) [] later := by
  unfold write
  generalize output.artifacts.record path content = recorded
  generalize output.artifacts.root.join path = target
  dsimp only
  have parents : output.files.Writes (fun _ => True) [] (output.files.makeParents target).2 :=
    FileTree.writes_makeParents fun _ _ _ _ => trivial
  rcases hmake : output.files.makeParents target with ⟨made, files⟩
  rw [hmake] at parents
  cases made with
  | false => exact Or.inr ⟨files, rfl, parents⟩
  | true =>
    simp only
    cases hfile : files.writeFile? target content with
    | none => exact Or.inr ⟨files, rfl, parents⟩
    | some later =>
      obtain ⟨written, hlocate, hname⟩ := FileTree.writes_writeFile? (fun _ => True) hfile
      rw [parents.placeOf] at written hlocate
      refine Or.inl ⟨later, rfl, parents.trans written, ?_⟩
      rw [written.bytes?_of_locate? hlocate hname]
      simp

/-- A call succeeds with the bytes that it writes and records them, or it fails and only makes
    directories. -/
theorem Call.run_cases (call : Call) (output : Output) :
    (∃ content later, call.content? output.files = some content ∧
      call.run output = ⟨.ok (output.artifacts.root.join call.path),
        output.artifacts.record call.path content, later⟩ ∧
      output.files.Writes (fun _ => True)
        [(output.files.placeOf (output.artifacts.root.join call.path), content)] later ∧
      later.bytes? (output.artifacts.root.join call.path) = some content) ∨
    ∃ later, call.run output = ⟨.error .file, output.artifacts, later⟩ ∧
      output.files.Writes (fun _ => True) [] later := by
  cases hcontent : call.content? output.files with
  | none => exact Or.inr ⟨output.files, run_of_content?_eq_none hcontent, .refl _ _⟩
  | some content =>
    rw [run_of_content? hcontent]
    rcases write_cases output call.path content with ⟨later, hwrite, writes, hbytes⟩ | failed
    · exact Or.inl ⟨content, later, rfl, hwrite, writes, hbytes⟩
    · exact Or.inr failed

/-! ## Records -/

/-- A record after a writing is of another path and was there before, or it has the new checksum and
    the path that was written, in the spelling in which it came first. -/
theorem mem_recordIn {records : List Artifact} {path : Path} {checksum : String} {record : Artifact}
    (distinct : (recorded records).Nodup) (h : record ∈ recordIn records path checksum) :
    (record ∈ records ∧ record.path.components ≠ path.components) ∨
      record.checksum = checksum ∧ record.path.components = path.components ∧
        (record.path = path ∨ ∃ old ∈ records, old.path = record.path) := by
  induction records with
  | nil =>
    -- the path is new, and is added in the spelling in which it is written
    obtain rfl := List.mem_singleton.1 h
    exact Or.inr ⟨rfl, rfl, Or.inl rfl⟩
  | cons old rest ih =>
    obtain ⟨hnew, hrest⟩ := List.nodup_cons.1 distinct
    unfold recordIn at h
    split at h
    · next hsame =>
      rcases List.mem_cons.1 h with rfl | hmem
      · exact Or.inr ⟨rfl, hsame, Or.inr ⟨old, List.mem_cons_self, rfl⟩⟩
      · refine Or.inl ⟨List.mem_cons_of_mem _ hmem, fun heq => hnew ?_⟩
        show old.path.components ∈ recorded rest
        rw [hsame, ← heq]
        exact List.mem_map_of_mem hmem
    · next hother =>
      rcases List.mem_cons.1 h with rfl | hmem
      · exact Or.inl ⟨List.mem_cons_self, hother⟩
      · refine (ih hrest hmem).imp (fun found => ⟨List.mem_cons_of_mem _ found.1, found.2⟩)
          fun found => ⟨found.1, found.2.1, found.2.2.imp id fun earlier => ?_⟩
        obtain ⟨first, hfirst, hpath⟩ := earlier
        exact ⟨first, List.mem_cons_of_mem _ hfirst, hpath⟩

/-- A written path is recorded with its checksum. -/
theorem exists_mem_recordIn (records : List Artifact) (path : Path) (checksum : String) :
    ∃ record ∈ recordIn records path checksum, record.path.components = path.components ∧
      record.checksum = checksum := by
  induction records with
  | nil => exact ⟨_, List.mem_singleton.2 rfl, rfl, rfl⟩
  | cons old rest ih =>
    unfold recordIn
    split
    · next hsame => exact ⟨_, List.mem_cons_self, hsame, rfl⟩
    · obtain ⟨record, hmem, hpath, hchecksum⟩ := ih
      exact ⟨record, List.mem_cons_of_mem _ hmem, hpath, hchecksum⟩

theorem nodup_recordIn {records : List Artifact} (distinct : (recorded records).Nodup) (path : Path)
    (checksum : String) : (recorded (recordIn records path checksum)).Nodup := by
  rw [recorded_recordIn]
  split
  · exact distinct
  · next hnew =>
    refine List.nodup_append.2 ⟨distinct, List.nodup_singleton _, fun old hold other hother => ?_⟩
    rw [List.mem_singleton.1 hother]
    rintro rfl
    exact hnew hold

/-! ## The record agrees with the files -/

/-- Whether a record has the checksum of the bytes that its path below a root holds. -/
def Current (root : Path) (files : FileTree) (record : Artifact) : Prop :=
  ∃ content, files.bytes? (root.join record.path) = some content ∧
    record.checksum = Sha256.hex content

/-- Whether the recorded paths are ordinary, different from each other and from that of the listing,
    and all records are current. -/
structure Agrees (root : Path) (output : Output) : Prop where
  below : output.artifacts.root = root
  names : ∀ record ∈ output.artifacts.written, record.path.Ordinary
  others : ∀ record ∈ output.artifacts.written, record.path.components ≠ [.name listingName]
  distinct : (recorded output.artifacts.written).Nodup
  current : ∀ record ∈ output.artifacts.written, Current root output.files record

variable {root : Path} {output : Output}

theorem agrees_start (root : Path) (files : FileTree) : Agrees root (.start root files) := by
  have nothing : (Output.start root files).artifacts.written = [] := rfl
  constructor
  · rfl
  · simp [nothing]
  · simp [nothing]
  · simp [nothing, recorded]
  · simp [nothing]

/-- The files below the root may be written to at other places. -/
theorem Agrees.of_unwritten (h : Agrees root output) {made : Place → Prop}
    {rows : List (Place × ByteArray)} {files : FileTree}
    (writes : output.files.Writes made rows files)
    (unwritten : ∀ row ∈ rows, ∀ record ∈ output.artifacts.written,
      row.1 ≠ output.files.placeOf (root.join record.path)) :
    Agrees root ⟨output.artifacts, files⟩ := by
  refine ⟨h.below, h.names, h.others, h.distinct, fun record hrecord => ?_⟩
  obtain ⟨content, hbytes, hchecksum⟩ := h.current record hrecord
  refine ⟨content, writes.bytes?_of_unwritten hbytes fun row hrow => ?_, hchecksum⟩
  exact unwritten row hrow record hrecord

/-- What a call writes, it records. -/
theorem Agrees.record (h : Agrees root output) {call : Call} (ordinary : call.Ordinary)
    {content : ByteArray} {later : FileTree}
    (writes : output.files.Writes (fun _ => True)
      [(output.files.placeOf (root.join call.path), content)] later)
    (hbytes : later.bytes? (root.join call.path) = some content) :
    Agrees root ⟨output.artifacts.record call.path content, later⟩ := by
  have kept : ∀ record ∈ recordIn output.artifacts.written call.path (Sha256.hex content),
      record.path.Ordinary ∧ record.path.components ≠ [.name listingName] ∧
        Current root later record := by
    intro record hrecord
    rcases mem_recordIn h.distinct hrecord with ⟨hmem, hother⟩ | ⟨hchecksum, hsame, hpath⟩
    · -- another path keeps its bytes, as it leads to another place
      obtain ⟨old, hold, hsum⟩ := h.current record hmem
      refine ⟨h.names record hmem, h.others record hmem, old, ?_, hsum⟩
      refine writes.bytes?_of_unwritten hold fun row hrow heq => hother ?_
      rw [List.mem_singleton.1 hrow] at heq
      exact (components_of_placeOf ordinary.names (h.names record hmem) heq).symm
    · rcases hpath with hpath | ⟨old, hmem, hpath⟩
      · rw [hpath]
        exact ⟨ordinary.names, ordinary.other, content, hpath ▸ hbytes, hchecksum⟩
      · -- the first spelling of the path leads to the place that was written
        obtain ⟨before, hbefore, -⟩ := h.current old hmem
        have hnames := h.names old hmem
        have hplace : output.files.placeOf (root.join old.path) =
            output.files.placeOf (root.join call.path) :=
          placeOf_of_components hnames (hpath ▸ hsame) output.files root
        refine ⟨hpath ▸ hnames, hpath ▸ h.others old hmem, content, ?_, hchecksum⟩
        rw [← hpath, writes.bytes?_of_bytes? hbefore, hplace]
        simp
  exact ⟨h.below, fun record hrecord => (kept record hrecord).1,
    fun record hrecord => (kept record hrecord).2.1, nodup_recordIn h.distinct _ _,
    fun record hrecord => (kept record hrecord).2.2⟩

/-- One call: the record still agrees with the files. -/
theorem Agrees.call (h : Agrees root output) {call : Call} (ordinary : call.Ordinary) :
    Agrees root (call.after output) := by
  unfold Call.after
  rcases call.run_cases output with ⟨content, later, -, hrun, writes, hbytes⟩ | ⟨later, hrun, writes⟩
  · rw [hrun]
    rw [h.below] at writes hbytes
    exact h.record ordinary writes hbytes
  · rw [hrun]
    exact h.of_unwritten writes (by simp)

theorem Logged.agrees (h : Logged root output) : Agrees root output := by
  induction h with
  | start files => exact agrees_start root files
  | call _ call ordinary ih => exact ih.call ordinary
  | elsewhere _ files same ih =>
    refine ⟨ih.below, ih.names, ih.others, ih.distinct, fun record hrecord => ?_⟩
    obtain ⟨content, hbytes, hchecksum⟩ := ih.current record hrecord
    exact ⟨content, same record.path (ih.names record hrecord) content hbytes, hchecksum⟩

/-! ## The listing -/

/-- The records in the order of the listing. -/
def sorted (artifacts : Artifacts) : List Artifact :=
  artifacts.written.mergeSort pathLe

theorem perm_sorted (artifacts : Artifacts) : artifacts.sorted.Perm artifacts.written :=
  List.mergeSort_perm _ _

theorem pathLe_iff {a b : Artifact} : pathLe a b = true ↔ a.path.text ≤ b.path.text :=
  FileTree.nameLe_iff

/-- Paths with components of their own have texts of their own, so they ascend strictly. -/
theorem ascending_sorted {artifacts : Artifacts} (distinct : (recorded artifacts.written).Nodup) :
    artifacts.sorted.Pairwise fun a b => Text.bytes a.path.text < Text.bytes b.path.text := by
  have ordered : artifacts.sorted.Pairwise fun a b => pathLe a b = true := by
    refine List.pairwise_mergeSort (fun a b c hab hbc => ?_) (fun a b => ?_) artifacts.written
    · rw [pathLe_iff] at hab hbc ⊢
      exact String.le_trans hab hbc
    · rw [Bool.or_eq_true, pathLe_iff, pathLe_iff]
      exact String.le_total _ _
  have apart : artifacts.sorted.Pairwise fun a b => a.path.text ≠ b.path.text := by
    have components : (recorded artifacts.sorted).Nodup :=
      ((perm_sorted artifacts).map _).nodup_iff.2 distinct
    refine (List.pairwise_map.1 components).imp fun hne heq => hne ?_
    exact congrArg (fun text => (⟨text⟩ : Path).components) heq
  refine ordered.imp₂ (fun a b hle hne => ?_) apart
  exact Text.bytes_lt_iff.2 (Std.lt_of_le_of_ne (pathLe_iff.1 hle) hne)

/-! ### The byte at which the paths begin -/

/-- The number of the byte at which the path begins in a line of the listing. -/
def pathStart : Nat := 66

/-- The listing, with the lines in the order of what they hold from the byte on at which the path
    begins; none if a line has no character that begins there. -/
def slicedListing? (artifacts : Artifacts) : Option String :=
  let lines := artifacts.written.map Artifact.line
  (lines.mapM fun line => (Text.fromByte? line pathStart).map fun key => (key, line)).map fun rows =>
    String.intercalate "\n"
      ((rows.mergeSort fun a b => decide (¬ Text.bytes b.1 < Text.bytes a.1)).map (·.2))

/-- After a checksum and two blanks comes the path. -/
theorem fromByte?_line {record : Artifact} {content : ByteArray}
    (h : record.checksum = Sha256.hex content) :
    Text.fromByte? (Artifact.line record) pathStart = some record.path.text := by
  obtain ⟨hlength, hdigits⟩ := Sha256.hex_digits content
  have hsize : (record.checksum ++ "  ").utf8ByteSize = pathStart := by
    rw [String.utf8ByteSize_append, h, Text.utf8ByteSize_of_narrow fun c hc =>
      Sha256.utf8Size_of_mem_digits (hdigits c hc), hlength]
    rfl
  exact Text.fromByte?_append hsize record.path.text

theorem mapM_eq_some {α β : Type} {step : α → Option β} {answer : α → β} {values : List α}
    (h : ∀ value ∈ values, step value = some (answer value)) :
    values.mapM step = some (values.map answer) := by
  induction values with
  | nil => rfl
  | cons value rest ih =>
    obtain ⟨hvalue, hrest⟩ := List.forall_mem_cons.1 h
    rw [List.mapM_cons, hvalue, ih hrest]
    rfl

/-- Where the records hold checksums, every line can be cut, and this gives the listing. -/
theorem slicedListing?_eq {artifacts : Artifacts}
    (checksums : ∀ record ∈ artifacts.written, ∃ content, record.checksum = Sha256.hex content) :
    artifacts.slicedListing? = some artifacts.listing := by
  let row (record : Artifact) : String × String := (record.path.text, Artifact.line record)
  have hrows : (artifacts.written.map Artifact.line).mapM (fun line =>
      (Text.fromByte? line pathStart).map fun key => (key, line)) =
        some (artifacts.written.map row) := by
    rw [List.mapM_map]
    refine mapM_eq_some fun record hrecord => ?_
    obtain ⟨content, hchecksum⟩ := checksums record hrecord
    simp only [Function.comp_apply, fromByte?_line hchecksum, Option.map_some, row]
  have hsorted : (artifacts.written.map row).mergeSort
      (fun a b => decide (¬ Text.bytes b.1 < Text.bytes a.1)) = artifacts.sorted.map row := by
    refine (List.map_mergeSort fun a _ b _ => ?_).symm
    rw [Bool.eq_iff_iff, pathLe_iff, decide_eq_true_iff, Text.bytes_lt_iff]
    exact String.not_lt.symm
  unfold slicedListing? listing
  simp only [hrows, Option.map_some, hsorted, List.map_map]
  rfl

/-! ## Finishing -/

theorem components_listingName : (⟨listingName⟩ : Path).components = [.name listingName] := by
  decide

/-- The listing is written as it is, and the recorded files stay. -/
theorem Agrees.finish (h : Agrees root output) {target : Path} {files : FileTree}
    (hfinish : output.artifacts.finish output.files = (.ok target, files)) :
    target = root.child listingName ∧ files.bytes? target = some output.artifacts.listing.toUTF8 ∧
      Agrees root ⟨output.artifacts, files⟩ := by
  have ordinary : (⟨listingName⟩ : Path).Ordinary := ⟨[listingName], components_listingName⟩
  have parents : output.files.Writes (fun _ => True) [] (output.files.makeDirectory root).2 :=
    FileTree.writes_makeDirectory fun _ _ => trivial
  unfold Artifacts.finish at hfinish
  rw [h.below] at hfinish
  simp only at hfinish
  split at hfinish
  · cases hfinish
  · next middle hmake =>
    rw [hmake] at parents
    split at hfinish
    · next later hfile =>
      cases hfinish
      obtain ⟨written, hlocate, hname⟩ := FileTree.writes_writeFile? (fun _ => True) hfile
      have writes := parents.trans written
      rw [parents.placeOf] at writes hlocate
      refine ⟨rfl, ?_, h.of_unwritten writes fun row hrow record hrecord heq => ?_⟩
      · rw [writes.bytes?_of_locate? hlocate hname]
        simp
      · -- the listing has a place of its own
        obtain rfl := List.mem_singleton.1 hrow
        refine h.others record hrecord ?_
        rw [← components_listingName]
        exact (components_of_placeOf ordinary (h.names record hrecord) heq).symm
    · cases hfinish

/-! ## Every run of calls -/

/-- After any calls with ordinary paths below a root at which nothing else writes, whether they
    succeed or fail: no two recorded paths have the same components, and each has the checksum of the
    bytes that the file at the path holds. A call with success has written its bytes at its path and
    recorded the path with their checksum; one that fails has recorded nothing. The listing consists
    of a line for each recorded path, with the 64 digits of the checksum, two blanks and the path, in
    strictly ascending order of the bytes of the paths; it is the same when the paths are read off
    from the lines, each of which can be cut there. Finishing writes it as it is. -/
theorem Logged.agrees_with_files (h : Logged root output) :
    (recorded output.artifacts.written).Nodup ∧
    (∀ record ∈ output.artifacts.written, Current root output.files record) ∧
    (∀ call : Call, call.Ordinary →
      (∀ target, (call.run output).outcome = .ok target →
        target = root.join call.path ∧
        ∃ content, call.content? output.files = some content ∧
          (call.after output).files.bytes? target = some content ∧
          ∃ record ∈ (call.after output).artifacts.written,
            record.path.components = call.path.components ∧
              record.checksum = Sha256.hex content) ∧
      ∀ error, (call.run output).outcome = .error error →
        (call.after output).artifacts = output.artifacts) ∧
    (∃ records : List Artifact, records.Perm output.artifacts.written ∧
      records.Pairwise (fun a b => Text.bytes a.path.text < Text.bytes b.path.text) ∧
      (∀ record ∈ records, record.checksum.toList.length = 64 ∧
        ∀ c ∈ record.checksum.toList, c ∈ Sha256.digits) ∧
      output.artifacts.listing = String.intercalate "\n"
        (records.map fun record => record.checksum ++ "  " ++ record.path.text)) ∧
    output.artifacts.slicedListing? = some output.artifacts.listing ∧
    ∀ target files, output.artifacts.finish output.files = (.ok target, files) →
      target = root.child listingName ∧
        files.bytes? target = some output.artifacts.listing.toUTF8 ∧
        ∀ record ∈ output.artifacts.written, Current root files record := by
  have agrees := h.agrees
  have checksums : ∀ record ∈ output.artifacts.written, ∃ content,
      record.checksum = Sha256.hex content := by
    intro record hrecord
    obtain ⟨content, -, hchecksum⟩ := agrees.current record hrecord
    exact ⟨content, hchecksum⟩
  refine ⟨agrees.distinct, agrees.current, fun call ordinary => ?_,
    ⟨output.artifacts.sorted, perm_sorted _, ascending_sorted agrees.distinct,
      fun record hrecord => ?_, rfl⟩, slicedListing?_eq checksums, fun target files hfinish => ?_⟩
  · unfold Call.after
    rcases call.run_cases output with ⟨content, later, hcontent, hrun, -, hbytes⟩ | ⟨later, hrun, -⟩
    · rw [hrun]
      rw [agrees.below] at hbytes ⊢
      refine ⟨fun target htarget => ?_, fun error herror => by cases herror⟩
      cases htarget
      exact ⟨rfl, content, hcontent, hbytes, exists_mem_recordIn _ _ _⟩
    · rw [hrun]
      refine ⟨fun target htarget => ?_, fun _ _ => rfl⟩
      cases htarget
  · obtain ⟨content, hchecksum⟩ := checksums record ((perm_sorted _).mem_iff.1 hrecord)
    rw [hchecksum]
    exact Sha256.hex_digits content
  · obtain ⟨htarget, hbytes, later⟩ := agrees.finish hfinish
    exact ⟨htarget, hbytes, later.current⟩

/-- A file that is written twice, its path spelled differently: it is recorded once, with the checksum
    of what it holds. -/
theorem agrees_with_files_rewritten :
    let first := Call.write ⟨"b//a"⟩ "x".toUTF8
    let second := Call.write ⟨"b/a"⟩ "y".toUTF8
    let output := second.after (first.after (.start ⟨"out"⟩ ⟨[], []⟩))
    Logged ⟨"out"⟩ output ∧ ∃ record content, output.artifacts.written = [record] ∧
      record.path = ⟨"b//a"⟩ ∧ output.files.bytes? ⟨"out/b//a"⟩ = some content ∧
      record.checksum = Sha256.hex content ∧
      output.artifacts.slicedListing? = some output.artifacts.listing := by
  intro first second output
  have ordinary : first.Ordinary ∧ second.Ordinary :=
    ⟨⟨⟨["b", "a"], by decide⟩, by decide⟩, ⟨["b", "a"], by decide⟩, by decide⟩
  have logged : Logged ⟨"out"⟩ output :=
    .call (.call (.start ⟨[], []⟩) first ordinary.1) second ordinary.2
  have paths : output.artifacts.written.map Artifact.path = [⟨"b//a"⟩] := by decide +kernel
  obtain ⟨-, current, -, -, sliced, -⟩ := logged.agrees_with_files
  obtain ⟨record, hwritten, hpath⟩ := List.map_eq_singleton_iff.1 paths
  obtain ⟨content, hbytes, hchecksum⟩ := current record (by rw [hwritten]; exact List.mem_cons_self)
  rw [hpath] at hbytes
  exact ⟨logged, record, content, hwritten, hpath, hbytes, hchecksum, sliced⟩

end Artifacts

end ResourceModel

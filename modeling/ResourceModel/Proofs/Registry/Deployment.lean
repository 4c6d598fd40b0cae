import ResourceModel.Proofs.Registry.Metadata
import ResourceModel.Proofs.Registry.Targets

set_option autoImplicit false

/-! # The tree that an emission leaves

The indexes of an emission name just the files that it writes. What it copies is what lay in the
assets before it, for it writes below its root only and reads elsewhere. -/

namespace ResourceModel

/-! ## Paths apart from a root -/

namespace Output

variable {start now final : Output} {before writes : List (String × ByteArray)}

/-- Whether nothing that is written below the root can change what a path names: the path leads to a
    place that is not below the root, and no directory on its way is still to be made. -/
def Apart (output : Output) (path : Path) : Prop :=
  ¬ output.rootPlace <+: output.files.placeOf path ∧
    ∀ place ∈ FileTree.passed output.files.work path.components, output.MayMake place →
      output.files.isDirectoryAt place = true

/-- Whether a file was written with the given bytes: it is recorded with their checksum, and reading
    it gives them. -/
def Holds (output : Output) (path : String) (content : ByteArray) : Prop :=
  ⟨⟨path⟩, Sha256.hex content⟩ ∈ output.artifacts.written ∧ output.bytes? path = some content

instance (output : Output) (place : Place) : Decidable (output.MayMake place) :=
  inferInstanceAs (Decidable (_ ∨ _))

instance (output : Output) (path : Path) : Decidable (output.Apart path) :=
  inferInstanceAs (Decidable (_ ∧ _))

theorem Wrote.bytes?_of_apart (h : start.Wrote start.MayMake before now)
    (files : ∀ path ∈ before.map Prod.fst, IsFilePath path) {path : Path}
    (apart : start.Apart path) : now.files.bytes? path = start.files.bytes? path := by
  refine h.files.bytes?_eq_of_clear apart.2 fun row hrow heq => apart.1 ?_
  obtain ⟨written, hwritten, rfl⟩ := List.mem_map.1 hrow
  have hfile := files written.1 (List.mem_map_of_mem hwritten)
  rw [← heq, hfile.placeOf_eq]
  exact List.prefix_append _ _

theorem Wrote.holds (h : start.Wrote start.MayMake writes final)
    (fresh : start.artifacts.written = [])
    (files : ∀ path ∈ writes.map Prod.fst, IsFilePath path) (nodup : (writes.map Prod.fst).Nodup)
    {row : String × ByteArray} (hrow : row ∈ writes) : final.Holds row.1 row.2 := by
  refine ⟨?_, h.bytes?_of_nodup files nodup hrow⟩
  rw [h.written_of_nodup fresh files nodup]
  exact List.mem_map.2 ⟨row, hrow, rfl⟩

end Output

namespace Index

variable {config : Config} {registry : Registry} {start now final : Output}

/-! ## What is read for an entry -/

/-- The paths at which the documents of an entry are looked for. -/
def sources (assets : Assets) (entry : Entry) : List Path :=
  csdlSource assets entry :: match entry.origin with
    | .bundle =>
      assets.jsonFile entry.standard (assets.storedStem entry.stem) ::
        (Assets.dottedStem? (assets.storedStem entry.stem)).toList.map
          (assets.jsonFile entry.standard)
    | .extension => [assets.extensionPath entry.id ((entry.version.map Version.tag).getD "")]

/-- Whether the documents of an entry lie apart from the root. -/
def LiesApart (config : Config) (output : Output) (entry : Entry) : Prop :=
  ∀ path ∈ sources ⟨output.files, config⟩ entry, output.Apart path

instance (config : Config) (output : Output) (entry : Entry) :
    Decidable (LiesApart config output entry) :=
  inferInstanceAs (Decidable (∀ path ∈ _, _))

theorem documentSource_of_bundle {assets : Assets} {entry : Entry}
    (horigin : entry.origin = .bundle) {source : Path} :
    documentSource assets entry = .ok source ↔
      assets.jsonPath? entry.standard entry.stem = some source := by
  unfold documentSource jsonSource
  rw [horigin]
  cases assets.jsonPath? entry.standard entry.stem with
  | none => simp
  | some path => simp

theorem documentSource_of_extension {assets : Assets} {entry : Entry}
    (horigin : entry.origin = .extension) {source : Path} :
    documentSource assets entry = .ok source ↔
      assets.extensionPath entry.id ((entry.version.map Version.tag).getD "") = source := by
  unfold documentSource
  rw [horigin]
  simp

/-- Whether two trees hold the same at the paths at which the documents of an entry are looked
    for. -/
def SameSources (config : Config) (first second : FileTree) (entry : Entry) : Prop :=
  ∀ path ∈ sources ⟨first, config⟩ entry, second.bytes? path = first.bytes? path

instance (config : Config) (first second : FileTree) (entry : Entry) :
    Decidable (SameSources config first second entry) :=
  inferInstanceAs (Decidable (∀ path ∈ _, _))

theorem sameSources_of_apart {before : List (String × ByteArray)} {entry : Entry}
    (h : start.Wrote start.MayMake before now)
    (files : ∀ path ∈ before.map Prod.fst, Output.IsFilePath path)
    (apart : LiesApart config start entry) : SameSources config start.files now.files entry :=
  fun path hpath => h.bytes?_of_apart files (apart path hpath)

section Reading

variable {first second : FileTree} {entry : Entry} (same : SameSources config first second entry)
include same

theorem bytes?_csdlSource :
    second.bytes? (csdlSource ⟨second, config⟩ entry) =
      first.bytes? (csdlSource ⟨first, config⟩ entry) :=
  same _ List.mem_cons_self

theorem namespaces_csdlSource :
    (⟨second, config⟩ : Assets).namespaces (csdlSource ⟨second, config⟩ entry) =
      (⟨first, config⟩ : Assets).namespaces (csdlSource ⟨first, config⟩ entry) := by
  have hbytes := bytes?_csdlSource same
  unfold Assets.namespaces FileTree.text?
  simp only [FileTree.isFile_eq, hbytes]
  rfl

theorem existing?_eq {path : Path} (hpath : path ∈ sources ⟨first, config⟩ entry) :
    (⟨second, config⟩ : Assets).existing? path = (⟨first, config⟩ : Assets).existing? path := by
  unfold Assets.existing?
  simp only [FileTree.isFile_eq, same path hpath]

theorem jsonPath?_eq (horigin : entry.origin = .bundle) :
    (⟨second, config⟩ : Assets).jsonPath? entry.standard entry.stem =
      (⟨first, config⟩ : Assets).jsonPath? entry.standard entry.stem := by
  let assets : Assets := ⟨first, config⟩
  let stored := assets.storedStem entry.stem
  have hsources : sources assets entry = csdlSource assets entry ::
      assets.jsonFile entry.standard stored ::
        (Assets.dottedStem? stored).toList.map (assets.jsonFile entry.standard) := by
    unfold sources
    rw [horigin]
  have hstored : (⟨second, config⟩ : Assets).existing? (assets.jsonFile entry.standard stored) =
      assets.existing? (assets.jsonFile entry.standard stored) :=
    existing?_eq same (hsources ▸ List.mem_cons_of_mem _ List.mem_cons_self)
  have hdotted : ∀ dotted ∈ Assets.dottedStem? stored,
      (⟨second, config⟩ : Assets).existing? (assets.jsonFile entry.standard dotted) =
        assets.existing? (assets.jsonFile entry.standard dotted) := fun dotted hmem =>
    existing?_eq same (hsources ▸ List.mem_cons_of_mem _ (List.mem_cons_of_mem _
      (List.mem_map_of_mem (Option.mem_toList.2 hmem))))
  change ((⟨second, config⟩ : Assets).existing? (assets.jsonFile entry.standard stored)).or
    ((Assets.dottedStem? stored).bind fun dotted =>
      (⟨second, config⟩ : Assets).existing? (assets.jsonFile entry.standard dotted)) =
    (assets.existing? (assets.jsonFile entry.standard stored)).or
    ((Assets.dottedStem? stored).bind fun dotted =>
      assets.existing? (assets.jsonFile entry.standard dotted))
  rw [hstored, Option.bind_congr hdotted]

omit same in
theorem mem_sources_of_jsonPath? {assets : Assets} (horigin : entry.origin = .bundle) {path : Path}
    (hpath : assets.jsonPath? entry.standard entry.stem = some path) :
    path ∈ sources assets entry := by
  have hexisting : ∀ other, assets.existing? other = some path → path = other := by
    intro other hother
    exact (Option.some.inj (Option.ite_none_right_eq_some.1 hother).2).symm
  unfold sources
  rw [horigin]
  refine List.mem_cons_of_mem _ ?_
  rcases Option.or_eq_some_iff.1 hpath with hfirst | ⟨-, hsecond⟩
  · exact List.mem_cons.2 (Or.inl (hexisting _ hfirst))
  · obtain ⟨dotted, hdotted, hfound⟩ := Option.bind_eq_some_iff.1 hsecond
    refine List.mem_cons_of_mem _ ?_
    rw [hexisting _ hfound]
    exact List.mem_map_of_mem (Option.mem_toList.2 hdotted)

/-- The schema document of an entry is found in both trees at one path. -/
theorem documentSource_eq {source : Path}
    (hsource : documentSource ⟨second, config⟩ entry = .ok source) :
    documentSource ⟨first, config⟩ entry = .ok source ∧
      second.bytes? source = first.bytes? source := by
  cases horigin : entry.origin with
  | bundle =>
    rw [documentSource_of_bundle horigin, jsonPath?_eq same horigin] at hsource
    exact ⟨(documentSource_of_bundle horigin).2 hsource,
      same _ (mem_sources_of_jsonPath? horigin hsource)⟩
  | extension =>
    obtain rfl := (documentSource_of_extension horigin).1 hsource
    refine ⟨(documentSource_of_extension horigin).2 rfl, same _ ?_⟩
    unfold sources
    rw [horigin]
    exact List.mem_cons_of_mem _ List.mem_cons_self

end Reading

/-! ## What is written for the entries -/

/-- Whether the documents of an entry are among the writings, and the given lines refer to its
    metadata document. -/
def EmitsEntry (config : Config) (files : FileTree) (writes : List (String × ByteArray))
    (entry : Entry) (lines : String) : Prop :=
  ∃ namespaces csdl source document,
    (⟨files, config⟩ : Assets).namespaces (csdlSource ⟨files, config⟩ entry) = .ok namespaces ∧
    lines = referenceLines config.registry entry namespaces ∧
    files.bytes? (csdlSource ⟨files, config⟩ entry) = some csdl ∧
    (csdlTarget entry, csdl) ∈ writes ∧
    documentSource ⟨files, config⟩ entry = .ok source ∧ files.bytes? source = some document ∧
    documentWrites entry document ⊆ writes

theorem EmitsEntry.weaken {files : FileTree} {writes more : List (String × ByteArray)}
    {entry : Entry} {lines : String} (h : EmitsEntry config files writes entry lines)
    (hmore : writes ⊆ more) : EmitsEntry config files more entry lines := by
  obtain ⟨namespaces, csdl, source, document, hread, hlines, hcsdl, hcopied, hsource, hdocument,
    hwritten⟩ := h
  exact ⟨namespaces, csdl, source, document, hread, hlines, hcsdl, hmore hcopied, hsource,
    hdocument, List.Subset.trans hwritten hmore⟩

theorem resolved_of_emitEntries {entries : List Entry} {references : List String} {output : Output}
    (h : emitEntries config registry entries output = .ok references final) :
    ∀ entry ∈ entries, entry.resolved = true := by
  induction entries generalizing output references with
  | nil => simp
  | cons entry rest ih =>
    obtain ⟨lines, middle, others, hentry, hothers, -⟩ := steps_of_emitEntries_cons h
    refine List.forall_mem_cons.2 ⟨?_, ih hothers⟩
    unfold emitEntry at hentry
    split at hentry
    · next hresolved => exact hresolved
    · simp at hentry

/-- Emitting entries one after the other copies the documents of each as they were at the start. -/
theorem emits_emitEntries {before : List (String × ByteArray)} {entries : List Entry}
    {references : List String} (hbefore : start.Wrote start.MayMake before now)
    (files : ∀ path ∈ before.map Prod.fst, Output.IsFilePath path)
    (words : ∀ entry ∈ entries, IsWord entry.id)
    (apart : ∀ entry ∈ entries, LiesApart config start entry)
    (h : emitEntries config registry entries now = .ok references final) :
    ∃ writes, now.Wrote start.MayMake writes final ∧
      writes.map Prod.fst = entries.flatMap entryTargets ∧
      List.Forall₂ (EmitsEntry config start.files writes) entries references := by
  induction entries generalizing now before references with
  | nil =>
    obtain ⟨rfl, rfl⟩ := Step.pure_eq_ok.1 h
    exact ⟨[], .refl _ _, rfl, .nil⟩
  | cons entry rest ih =>
    obtain ⟨hword, hwords⟩ := List.forall_mem_cons.1 words
    obtain ⟨hapart, haparts⟩ := List.forall_mem_cons.1 apart
    obtain ⟨lines, middle, others, hentry, hothers, rfl⟩ := steps_of_emitEntries_cons h
    have htargets := isFilePath_entryTargets hword
    have hallows : ∀ path ∈ entryTargets entry, now.Allows start.MayMake path := fun path hpath =>
      (hbefore.allows_iff path).2 ((htargets path hpath).allows start)
    obtain ⟨-, namespaces, csdl, source, document, copied, hread, hlines, hcsdl, hcopied, hsource,
      hdocument, hwritten⟩ := wrote_emitEntry hallows hentry
    -- what has been written up to here lies apart from the sources of the entry
    have hsame := sameSources_of_apart hbefore files hapart
    rw [namespaces_csdlSource hsame] at hread
    rw [bytes?_csdlSource hsame] at hcsdl
    have hfiles : ∀ path ∈ (before ++ [(csdlTarget entry, csdl)]).map Prod.fst,
        Output.IsFilePath path := by
      rw [List.map_append]
      exact List.forall_mem_append.2 ⟨files,
        List.forall_mem_singleton.2 (htargets _ List.mem_cons_self)⟩
    obtain ⟨hfound, hbytes⟩ := documentSource_eq
      (sameSources_of_apart (hbefore.trans hcopied) hfiles hapart) hsource
    rw [hbytes] at hdocument
    let written := (csdlTarget entry, csdl) :: documentWrites entry document
    have hwrote : now.Wrote start.MayMake written middle := hcopied.trans hwritten
    have hpaths : written.map Prod.fst = entryTargets entry :=
      congrArg (csdlTarget entry :: ·) (map_fst_documentWrites entry document)
    have hfilesAfter : ∀ path ∈ (before ++ written).map Prod.fst, Output.IsFilePath path := by
      rw [List.map_append, hpaths]
      exact List.forall_mem_append.2 ⟨files, htargets⟩
    obtain ⟨writes, hwrites, hmore, hemits⟩ := ih (hbefore.trans hwrote) hfilesAfter hwords haparts
      hothers
    refine ⟨written ++ writes, hwrote.trans hwrites, ?_, .cons ?_ ?_⟩
    · rw [List.map_append, hpaths, hmore, List.flatMap_cons]
    · exact ⟨namespaces, csdl, source, document, hread, hlines, hcsdl, by simp [written], hfound,
        hdocument, fun row hrow => List.mem_append_left _ (List.mem_cons_of_mem _ hrow)⟩
    · exact hemits.imp fun _ _ hemit => hemit.weaken (List.subset_append_right _ _)

/-! ## The deployment tree -/

/-- Whether the index of all schemas was written with one member for each entry, in their order, and
    their number. It reads as it was written, if the number is one of 64 bits. -/
def HoldsCollection (final : Output) (entries : List Entry) : Prop :=
  ∃ index, final.Holds collectionTarget index.pretty.toUTF8 ∧
    index.items? "Members" = some (entries.map fun entry => member (schemaDir entry)) ∧
    index.get? "Members@odata.count" = some (.ofNat entries.length) ∧
    (entries.length < 2 ^ 64 → Json.parse index.pretty = some index)

/-- Whether the index of a schema was written. That of a bundle's schema names the place that its
    member in the index of all schemas names, and a written copy of the schema document; that of an
    extension is the extension document. -/
def HoldsIndex (assets : Assets) (final : Output) (entry : Entry) : Prop :=
  match entry.origin with
  | .bundle => ∃ text index location source document target,
    final.Holds (indexTarget entry) text.toUTF8 ∧ Json.parse text = some index ∧
    index.text? "@odata.id" = (member (schemaDir entry)).text? "@odata.id" ∧
    index.items? "Location" = some [location] ∧ location.text? "Uri" = some ("/" ++ target) ∧
    assets.jsonPath? entry.standard entry.stem = some source ∧
    assets.files.bytes? source = some document ∧ final.Holds target document
  | .extension => ∃ document,
    assets.files.bytes? (assets.extensionPath entry.id ((entry.version.map Version.tag).getD "")) =
      some document ∧ final.Holds (indexTarget entry) document

/-- Whether the metadata index was written with one reference for each entry, in their order, which
    names a written copy of the entry's metadata document and includes the namespaces of it. -/
def HoldsMetadata (assets : Assets) (final : Output) (entries : List Entry) : Prop :=
  ∃ text references, final.Holds metadataTarget text.toUTF8 ∧ references? text = some references ∧
    List.Forall₂ (fun entry reference => ∃ csdl target,
      assets.namespaces (csdlSource assets entry) = .ok reference.namespaces ∧
      assets.files.bytes? (csdlSource assets entry) = some csdl ∧
      reference.uri = "/" ++ target ∧ final.Holds target csdl) entries references

/-- Whether an emission that answers the given summary left the tree of a registry, and changed no
    other files. -/
structure Deploys (config : Config) (registry : Registry) (output : Output) (summary : Summary)
    (final : Output) : Prop where
  ordered : (Table.values registry.entries).Pairwise fun a b => a.id < b.id
  collection : HoldsCollection final (Table.values registry.entries)
  indexes : ∀ entry ∈ Table.values registry.entries,
    HoldsIndex ⟨output.files, config⟩ final entry
  metadata : HoldsMetadata ⟨output.files, config⟩ final (Table.values registry.entries)
  written : final.artifacts.written.map (·.path.text) = targets registry
  elsewhere : ∀ place, (∀ path ∈ targets registry, place ≠ output.placeOf path) →
    final.files.fileAt? place = output.files.fileAt? place
  schemas : summary.schemas = (Table.values registry.entries).length
  files : summary.files = 2 +
    3 * (Table.values registry.entries).countP (fun entry => entry.origin = .bundle) +
    2 * (Table.values registry.entries).countP (fun entry => entry.origin = .extension)

theorem length_entryTargets (entries : List Entry) :
    (entries.flatMap entryTargets).length =
      3 * entries.countP (fun entry => entry.origin = .bundle) +
        2 * entries.countP (fun entry => entry.origin = .extension) := by
  induction entries with
  | nil => rfl
  | cons entry rest ih =>
    rw [List.flatMap_cons, List.length_append, ih, List.countP_cons, List.countP_cons]
    cases horigin : entry.origin with
    | bundle =>
      simp [entryTargets, documentTargets, horigin]
      omega
    | extension =>
      simp [entryTargets, documentTargets, horigin]
      omega

theorem asRead_member (dir : String) : Json.asRead (member dir) = member dir := by
  simp [member, Json.asRead, Json.rowsAsRead, Table.ofRows, Table.put]

theorem text?_member (dir : String) : (member dir).text? "@odata.id" = some ("/" ++ dir) := by
  simp [member, Json.text?, Json.get?, Table.get?, Json.string?]

theorem asRead_collection (dirs : List String) :
    Json.asRead (collection dirs) = collection dirs := by
  have hmembers : Json.itemsAsRead (dirs.map member) = dirs.map member := by
    induction dirs with
    | nil => rfl
    | cons dir rest ih => rw [List.map_cons, Json.itemsAsRead, asRead_member, ih]
  have hkeys : ["@odata.context", "@odata.id", "@odata.type", "Description", "Members",
      "Members@odata.count", "Name"].Pairwise (· < ·) := by decide
  simp only [collection, Json.asRead, Json.rowsAsRead, Json.ofNat, hmembers]
  exact congrArg Json.object (Table.Sorted.ofRows_eq (Table.sorted_of_keys hkeys))

theorem readable_collection {dirs : List String} (h : dirs.length < 2 ^ 64) :
    Json.Readable 0 (collection dirs) := by
  have hmembers : Json.ReadableItems 2 (dirs.map member) := by
    clear h
    induction dirs with
    | nil => trivial
    | cons dir rest ih =>
      refine ⟨?_, ih⟩
      simp [member, Json.Readable, Json.ReadableRows, Json.nestingLimit]
  have hcount : Json.Readable 1 (.ofNat dirs.length) := h
  simp [collection, Json.Readable, Json.ReadableRows, Json.nestingLimit, hmembers, hcount]

theorem pairwise_id {registry : Registry} (sorted : Table.Sorted registry.entries)
    (own : ∀ row ∈ registry.entries, row.2.id = row.1) :
    (Table.values registry.entries).Pairwise fun a b => a.id < b.id := by
  refine List.pairwise_map.2 (sorted.imp_of_mem fun {a b} ha hb hlt => ?_)
  rw [own a ha, own b hb]
  exact hlt

theorem pairwise_ne_id {registry : Registry} (sorted : Table.Sorted registry.entries)
    (own : ∀ row ∈ registry.entries, row.2.id = row.1) :
    (Table.values registry.entries).Pairwise fun a b => a.id ≠ b.id :=
  (pairwise_id sorted own).imp fun {a b} (hlt : a.id < b.id) (heq : a.id = b.id) =>
    String.lt_irrefl b.id (heq ▸ hlt)

/-- What an emission with success writes: at each of its paths once, what it copies being what lay
    in the assets before. -/
theorem emits_emit {summary : Summary}
    (words : ∀ entry ∈ Table.values registry.entries, IsWord entry.id)
    (apart : ∀ entry ∈ Table.values registry.entries, LiesApart config start entry)
    (h : emit config registry start = .ok summary final) :
    ∃ writes references, start.Wrote start.MayMake writes final ∧
      writes.map Prod.fst = targets registry ∧
      List.Forall₂ (EmitsEntry config start.files writes) (Table.values registry.entries)
        references ∧
      (metadataTarget, (metadata references).toUTF8) ∈ writes ∧
      (collectionTarget, (collection ((Table.values registry.entries).map schemaDir)).pretty.toUTF8)
        ∈ writes ∧
      summary = ⟨(Table.values registry.entries).length, final.artifacts.written.length⟩ := by
  obtain ⟨references, middle, _, written, _, hentries, hmetadata, hcollection, hsummary⟩ :=
    steps_of_emit h
  obtain ⟨writes, hwrites, hpaths, hemits⟩ :=
    emits_emitEntries (.refl _ start) (by simp) words apart hentries
  have hmetadata := Output.wrote_write ((hwrites.allows_iff _).2
    ((isFilePath_indexes metadataTarget (by simp)).allows start)) hmetadata
  have hboth := hwrites.trans hmetadata
  have hcollection := Output.wrote_write ((hboth.allows_iff _).2
    ((isFilePath_indexes collectionTarget (by simp)).allows start)) hcollection
  refine ⟨_, references, hboth.trans hcollection, ?_, hemits.imp fun _ _ hemit => hemit.weaken ?_,
    by simp, by simp, hsummary⟩
  · simp [hpaths, targets]
  · intro row hrow
    simp [hrow]

theorem exists_emits_of_mem {writes : List (String × ByteArray)} {entries : List Entry}
    {references : List String}
    (h : List.Forall₂ (EmitsEntry config start.files writes) entries references) {entry : Entry}
    (hentry : entry ∈ entries) : ∃ lines, EmitsEntry config start.files writes entry lines := by
  induction h with
  | nil => simp at hentry
  | cons hemits _ ih => exact (List.mem_cons.1 hentry).elim (fun heq => heq ▸ ⟨_, hemits⟩) ih

section Emission

variable {summary : Summary}
  (distinct : (Table.values registry.entries).Pairwise fun a b => a.id ≠ b.id)
  (words : ∀ entry ∈ Table.values registry.entries, IsWord entry.id ∧ entry.id ≠ "index")
  (fresh : start.artifacts.written = [])
  (apart : ∀ entry ∈ Table.values registry.entries, LiesApart config start entry)
  (h : emit config registry start = .ok summary final)
include distinct words fresh apart h

/-- Every file of an emission holds what was written there, for all of its paths are different. -/
theorem holds_of_emit :
    ∃ writes references, start.Wrote start.MayMake writes final ∧
      writes.map Prod.fst = targets registry ∧
      final.artifacts.written.map (·.path.text) = targets registry ∧
      (∀ row ∈ writes, final.Holds row.1 row.2) ∧
      List.Forall₂ (EmitsEntry config start.files writes) (Table.values registry.entries)
        references ∧
      (metadataTarget, (metadata references).toUTF8) ∈ writes ∧
      (collectionTarget, (collection ((Table.values registry.entries).map schemaDir)).pretty.toUTF8)
        ∈ writes ∧
      summary = ⟨(Table.values registry.entries).length, final.artifacts.written.length⟩ := by
  have hwords := fun entry hentry => (words entry hentry).1
  obtain ⟨writes, references, hwrote, hpaths, hemits, hmetadata, hcollection, hsummary⟩ :=
    emits_emit hwords apart h
  have files : ∀ path ∈ writes.map Prod.fst, Output.IsFilePath path :=
    hpaths ▸ isFilePath_targets hwords
  have nodup : (writes.map Prod.fst).Nodup := hpaths ▸ nodup_targets distinct words
  have hwritten : final.artifacts.written.map (·.path.text) = targets registry := by
    rw [hwrote.written_of_nodup fresh files nodup, List.map_map, ← hpaths]
    rfl
  exact ⟨writes, references, hwrote, hpaths, hwritten,
    fun row hrow => hwrote.holds fresh files nodup hrow, hemits, hmetadata, hcollection, hsummary⟩

/-- The copy of a bundle's schema document holds what the document held before. -/
theorem holds_documentTarget_of_emit {entry : Entry}
    (hentry : entry ∈ Table.values registry.entries) (horigin : entry.origin = .bundle) :
    ∃ source document,
      (⟨start.files, config⟩ : Assets).jsonPath? entry.standard entry.stem = some source ∧
      start.files.bytes? source = some document ∧ final.Holds (documentTarget entry) document := by
  obtain ⟨writes, _, _, _, _, holds, hemits, _, _, _⟩ := holds_of_emit distinct words fresh apart h
  obtain ⟨_, _, _, source, document, -, -, -, -, hsource, hdocument, hwritten⟩ :=
    exists_emits_of_mem hemits hentry
  refine ⟨source, document, (documentSource_of_bundle horigin).1 hsource, hdocument,
    holds (documentTarget entry, document) (hwritten ?_)⟩
  unfold documentWrites
  rw [horigin]
  exact List.mem_cons_self

end Emission

/-! ## What the files hold -/

theorem holdsCollection_of_holds {entries : List Entry}
    (h : final.Holds collectionTarget (collection (entries.map schemaDir)).pretty.toUTF8) :
    HoldsCollection final entries := by
  refine ⟨_, h, ?_, ?_, fun fits => ?_⟩
  · simp [collection, Json.items?, Json.get?, Table.get?, Json.array?]
  · simp [collection, Json.get?, Table.get?]
  · rw [Json.parse_pretty (readable_collection (by simpa using fits)), asRead_collection]

theorem plain_schemaDir {entry : Entry} (word : IsWord entry.id) : Plain (schemaDir entry) :=
  ((((((plain_standard entry.standard).append plain_slash).append plain_protocol).append
    plain_slash).append plain_schemasDir).append plain_slash).append word.plain_text

theorem holdsIndex_of_emits {writes : List (String × ByteArray)} {entry : Entry} {lines : String}
    (word : IsWord entry.id) (hemits : EmitsEntry config start.files writes entry lines)
    (holds : ∀ row ∈ writes, final.Holds row.1 row.2) :
    HoldsIndex ⟨start.files, config⟩ final entry := by
  obtain ⟨_, _, source, document, -, -, -, -, hsource, hdocument, hwritten⟩ := hemits
  unfold HoldsIndex
  unfold documentWrites at hwritten
  cases horigin : entry.origin with
  | bundle =>
    rw [horigin] at hwritten
    obtain ⟨hcopied, hindex⟩ := List.cons_subset.1 hwritten
    obtain ⟨index, location, hparse, hown, hlocation, huri⟩ :=
      @reads_ofSchema entry.standard _ _ word.plain_text (plain_schemaDir word)
    have hmember : index.text? "@odata.id" = (member (schemaDir entry)).text? "@odata.id" := by
      rw [text?_member, schemaDir]
      exact hown
    have hplace : location.text? "Uri" = some ("/" ++ documentTarget entry) := by
      rw [documentTarget]
      exact huri
    have hfound := (documentSource_of_bundle horigin).1 hsource
    have hrow := holds _ (hindex List.mem_cons_self)
    -- Unifying the text with the one that the index holds must not compute it.
    generalize ofSchema entry.standard entry.id (schemaDir entry) = text at hparse hrow
    exact ⟨text, index, location, source, document, documentTarget entry, hrow, hparse, hmember,
      hlocation, hplace, hfound, hdocument, holds _ hcopied⟩
  | extension =>
    rw [horigin] at hwritten
    obtain rfl := (documentSource_of_extension horigin).1 hsource
    exact ⟨document, hdocument, holds _ (hwritten List.mem_cons_self)⟩

/-- The lines of the references stand for entries with the namespaces of their documents. -/
theorem rows_of_emits {writes : List (String × ByteArray)} {entries : List Entry}
    {references : List String}
    (h : List.Forall₂ (EmitsEntry config start.files writes) entries references) :
    ∃ rows : List (Entry × List String), rows.map Prod.fst = entries ∧
      (rows.map fun row => referenceLines config.registry row.1 row.2) = references ∧
      ∀ row ∈ rows, ∃ csdl,
        (⟨start.files, config⟩ : Assets).namespaces (csdlSource ⟨start.files, config⟩ row.1) =
          .ok row.2 ∧
        start.files.bytes? (csdlSource ⟨start.files, config⟩ row.1) = some csdl ∧
        (csdlTarget row.1, csdl) ∈ writes := by
  induction h with
  | nil => exact ⟨[], rfl, rfl, by simp⟩
  | @cons entry lines _ _ hemits _ ih =>
    obtain ⟨namespaces, csdl, _, _, hread, rfl, hcsdl, hcopied, -⟩ := hemits
    obtain ⟨rows, rfl, rfl, hrows⟩ := ih
    exact ⟨(entry, namespaces) :: rows, rfl, rfl,
      List.forall_mem_cons.2 ⟨⟨csdl, hread, hcsdl, hcopied⟩, hrows⟩⟩

theorem holdsMetadata_of_emits {writes : List (String × ByteArray)} {entries : List Entry}
    {references : List String}
    (hemits : List.Forall₂ (EmitsEntry config start.files writes) entries references)
    (hmetadata : (metadataTarget, (metadata references).toUTF8) ∈ writes)
    (holds : ∀ row ∈ writes, final.Holds row.1 row.2) :
    HoldsMetadata ⟨start.files, config⟩ final entries := by
  obtain ⟨rows, rfl, rfl, hrows⟩ := rows_of_emits hemits
  refine ⟨_, _, holds _ hmetadata, references?_metadata config.registry rows, ?_⟩
  rw [List.forall₂_map_left_iff, List.forall₂_map_right_iff, List.forall₂_same]
  intro row hrow
  obtain ⟨csdl, hread, hcsdl, hcopied⟩ := hrows row hrow
  exact ⟨csdl, csdlTarget row.1, hread, hcsdl, rfl, holds _ hcopied⟩

/-- A bundle in the directory `s` and an extension area in the directory `x`. -/
def mixedConfig : Config where
  assets := { redfishBundle := ⟨"s"⟩, extensionDir := ⟨"x"⟩ }

/-- An output over one schema in the bundle and one in the extension area. -/
def mixedOutput : Output :=
  .start ⟨"www"⟩ ⟨[(["s"], .directory), (["s", "csdl"], .directory),
    (["s", "csdl", "A_v1.xml"],
      .file "<D><Schema Namespace='A'/><Schema Namespace='B'/></D>".toUTF8),
    (["s", "json-schema"], .directory), (["s", "json-schema", "A.v1_0_0.json"], .file "a".toUTF8),
    (["x"], .directory), (["x", "csdl"], .directory),
    (["x", "csdl", "Vendor_v1.xml"], .file "<Schema Namespace='Vendor'/>".toUTF8),
    (["x", "json-schema"], .directory),
    (["x", "json-schema", "Vendor.v2_0_0.json"], .file "v".toUTF8)], []⟩

/-- The registry with these two schemas. -/
def mixedRegistry : Registry :=
  ⟨[("A", ⟨.redfish, "A", some ⟨"v1_0_0", 1, 0, 0⟩, true, none, .bundle⟩),
    ("Vendor", ⟨.redfish, "Vendor", some ⟨"v2_0_0", 2, 0, 0⟩, true, none, .extension⟩)], [], []⟩

end Index

end ResourceModel

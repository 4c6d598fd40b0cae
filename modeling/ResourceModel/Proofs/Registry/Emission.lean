import ResourceModel.Proofs.Output
import ResourceModel.Registry.Index

set_option autoImplicit false

/-! # What an emission writes

An emission that succeeds copies the documents of one entry after the other and writes the two
indexes at the end. What it writes for an entry is what it reads of the assets as they are then. -/

namespace ResourceModel.Index

variable {config : Config} {registry : Registry} {made : Place → Prop} {output final : Output}

/-! ## The paths of an emission -/

/-- The path of the index of a schema. -/
def indexTarget (entry : Entry) : String :=
  schemaDir entry ++ "/index.json"

/-- The path of the copy of a schema document of a bundle. -/
def documentTarget (entry : Entry) : String :=
  schemaDir entry ++ "/" ++ entry.id ++ ".json"

/-- The paths that are written for the schema document of an entry. -/
def documentTargets (entry : Entry) : List String :=
  match entry.origin with
  | .bundle => [documentTarget entry, indexTarget entry]
  | .extension => [indexTarget entry]

/-- The paths that are written for an entry. -/
def entryTargets (entry : Entry) : List String :=
  csdlTarget entry :: documentTargets entry

/-- The paths that are written for a registry, in their order. -/
def targets (registry : Registry) : List String :=
  (Table.values registry.entries).flatMap entryTargets ++ [metadataTarget, collectionTarget]

/-! ## The documents of one entry -/

/-- The path of the schema document of an entry. -/
def documentSource (assets : Assets) (entry : Entry) : Except Error Path :=
  match entry.origin with
  | .bundle => jsonSource assets entry
  | .extension => .ok (assets.extensionPath entry.id ((entry.version.map Version.tag).getD ""))

/-- What is written for the schema document of an entry. -/
def documentWrites (entry : Entry) (document : ByteArray) : List (String × ByteArray) :=
  match entry.origin with
  | .bundle =>
    [(documentTarget entry, document),
      (indexTarget entry, (ofSchema entry.standard entry.id (schemaDir entry)).toUTF8)]
  | .extension => [(indexTarget entry, document)]

theorem map_fst_documentWrites (entry : Entry) (document : ByteArray) :
    (documentWrites entry document).map Prod.fst = documentTargets entry := by
  unfold documentWrites documentTargets
  cases entry.origin <;> rfl

theorem eq_of_assetsNow {assets : Assets} (h : assetsNow config output = .ok assets final) :
    assets = ⟨output.files, config⟩ ∧ final = output := by
  cases h
  exact ⟨rfl, rfl⟩

theorem wrote_copyCsdl {entry : Entry} {namespaces : List String}
    (allows : output.Allows made (csdlTarget entry))
    (h : copyCsdl config entry output = .ok namespaces final) :
    let source := csdlSource ⟨output.files, config⟩ entry
    (⟨output.files, config⟩ : Assets).namespaces source = .ok namespaces ∧
      ∃ content, output.files.bytes? source = some content ∧
        output.Wrote made [(csdlTarget entry, content)] final := by
  obtain ⟨assets, _, hnow, hreads⟩ := Step.bind_eq_ok.1 h
  obtain ⟨rfl, rfl⟩ := eq_of_assetsNow hnow
  obtain ⟨found, _, hnamespaces, hcopies⟩ := Step.bind_eq_ok.1 hreads
  obtain ⟨hfound, rfl⟩ := Step.ofExcept_eq_ok.1 hnamespaces
  obtain ⟨target, copied, hcopy, hanswer⟩ := Step.bind_eq_ok.1 hcopies
  obtain ⟨rfl, rfl⟩ := Step.pure_eq_ok.1 hanswer
  exact ⟨hfound, Output.wrote_copy allows hcopy⟩

theorem copyJson_of_bundle {entry : Entry} (horigin : entry.origin = .bundle) :
    copyJson config entry = do
      let assets ← assetsNow config
      let source ← Step.ofExcept (jsonSource assets entry)
      let _ ← Output.copy source (documentTarget entry)
      let _ ← Output.write (indexTarget entry)
        (ofSchema entry.standard entry.id (schemaDir entry))
      return () := by
  unfold copyJson documentTarget indexTarget
  simp only [horigin]

theorem copyJson_of_extension {entry : Entry} (horigin : entry.origin = .extension) :
    copyJson config entry = do
      let assets ← assetsNow config
      let _ ← Output.copy
        (assets.extensionPath entry.id ((entry.version.map Version.tag).getD ""))
        (indexTarget entry)
      return () := by
  unfold copyJson indexTarget
  simp only [horigin]

theorem wrote_copyJson {entry : Entry}
    (allows : ∀ path ∈ documentTargets entry, output.Allows made path)
    (h : copyJson config entry output = .ok () final) :
    ∃ source content, documentSource ⟨output.files, config⟩ entry = .ok source ∧
      output.files.bytes? source = some content ∧
      output.Wrote made (documentWrites entry content) final := by
  cases horigin : entry.origin with
  | bundle =>
    rw [copyJson_of_bundle horigin] at h
    simp only [documentTargets, horigin] at allows
    obtain ⟨hdocument, hindex⟩ := List.forall_mem_cons.1 allows
    obtain ⟨assets, _, hnow, hreads⟩ := Step.bind_eq_ok.1 h
    obtain ⟨rfl, rfl⟩ := eq_of_assetsNow hnow
    obtain ⟨source, _, hsource, hcopies⟩ := Step.bind_eq_ok.1 hreads
    obtain ⟨hfound, rfl⟩ := Step.ofExcept_eq_ok.1 hsource
    obtain ⟨_, copied, hcopy, hwrites⟩ := Step.bind_eq_ok.1 hcopies
    obtain ⟨_, written, hwrite, hanswer⟩ := Step.bind_eq_ok.1 hwrites
    obtain ⟨-, rfl⟩ := Step.pure_eq_ok.1 hanswer
    obtain ⟨content, hcontent, hcopied⟩ := Output.wrote_copy hdocument hcopy
    have hallows := (hcopied.allows_iff (indexTarget entry)).2 (hindex _ List.mem_cons_self)
    have hboth := hcopied.trans (Output.wrote_write hallows hwrite)
    simp only [documentSource, documentWrites, horigin]
    exact ⟨source, content, hfound, hcontent, hboth⟩
  | extension =>
    rw [copyJson_of_extension horigin] at h
    simp only [documentTargets, horigin] at allows
    obtain ⟨assets, _, hnow, hcopies⟩ := Step.bind_eq_ok.1 h
    obtain ⟨rfl, rfl⟩ := eq_of_assetsNow hnow
    obtain ⟨_, copied, hcopy, hanswer⟩ := Step.bind_eq_ok.1 hcopies
    obtain ⟨-, rfl⟩ := Step.pure_eq_ok.1 hanswer
    obtain ⟨content, hcontent, hcopied⟩ :=
      Output.wrote_copy (allows (indexTarget entry) List.mem_cons_self) hcopy
    simp only [documentSource, documentWrites, horigin]
    exact ⟨_, content, rfl, hcontent, hcopied⟩

/-- Emitting an entry copies its metadata document and then its schema document, each as it is
    found at that point. -/
theorem wrote_emitEntry {entry : Entry} {lines : String}
    (allows : ∀ path ∈ entryTargets entry, output.Allows made path)
    (h : emitEntry config registry entry output = .ok lines final) :
    entry.resolved = true ∧ ∃ namespaces csdl source document middle,
      (⟨output.files, config⟩ : Assets).namespaces (csdlSource ⟨output.files, config⟩ entry) =
        .ok namespaces ∧
      lines = referenceLines config.registry entry namespaces ∧
      output.files.bytes? (csdlSource ⟨output.files, config⟩ entry) = some csdl ∧
      output.Wrote made [(csdlTarget entry, csdl)] middle ∧
      documentSource ⟨middle.files, config⟩ entry = .ok source ∧
      middle.files.bytes? source = some document ∧
      middle.Wrote made (documentWrites entry document) final := by
  obtain ⟨hcsdl, hdocuments⟩ := List.forall_mem_cons.1 allows
  unfold emitEntry at h
  split at h
  · next hresolved =>
    obtain ⟨namespaces, middle, hcopy, hrest⟩ := Step.bind_eq_ok.1 h
    obtain ⟨_, copied, hjson, hanswer⟩ := Step.bind_eq_ok.1 hrest
    cases hanswer
    obtain ⟨hnamespaces, csdl, hbytes, hwrote⟩ := wrote_copyCsdl hcsdl hcopy
    obtain ⟨source, document, hsource, hdocument, hwrote'⟩ := wrote_copyJson
      (fun path hpath => (hwrote.allows_iff path).2 (hdocuments path hpath)) hjson
    exact ⟨hresolved, namespaces, csdl, source, document, middle, hnamespaces, rfl, hbytes, hwrote,
      hsource, hdocument, hwrote'⟩
  · simp at h

/-! ## The whole emission -/

/-- An emission that succeeds emits its entries and then writes the two indexes. -/
theorem steps_of_emit {summary : Summary} (h : emit config registry output = .ok summary final) :
    ∃ references middle target metadataWritten target',
      emitEntries config registry (Table.values registry.entries) output =
        .ok references middle ∧
      Output.write metadataTarget (metadata references) middle = .ok target metadataWritten ∧
      Output.write collectionTarget
        (collection ((Table.values registry.entries).map schemaDir)).pretty metadataWritten =
          .ok target' final ∧
      summary = ⟨(Table.values registry.entries).length, final.artifacts.written.length⟩ := by
  obtain ⟨references, middle, hentries, hrest⟩ := Step.bind_eq_ok.1 h
  obtain ⟨target, written, hmetadata, hrest⟩ := Step.bind_eq_ok.1 hrest
  obtain ⟨target', last, hcollection, hrest⟩ := Step.bind_eq_ok.1 hrest
  obtain ⟨_, _, hget, hanswer⟩ := Step.bind_eq_ok.1 hrest
  cases hget
  cases hanswer
  exact ⟨references, middle, target, written, target', hentries, hmetadata, hcollection, rfl⟩

/-- Emitting a list of entries emits the first of them and then the others. -/
theorem steps_of_emitEntries_cons {entry : Entry} {rest : List Entry} {references : List String}
    (h : emitEntries config registry (entry :: rest) output = .ok references final) :
    ∃ lines middle others, emitEntry config registry entry output = .ok lines middle ∧
      emitEntries config registry rest middle = .ok others final ∧
      references = lines :: others := by
  obtain ⟨lines, middle, hentry, hrest⟩ := Step.bind_eq_ok.1 h
  obtain ⟨others, last, hothers, hanswer⟩ := Step.bind_eq_ok.1 hrest
  obtain ⟨rfl, rfl⟩ := Step.pure_eq_ok.1 hanswer
  exact ⟨lines, middle, others, hentry, hothers, rfl⟩

theorem wrote_emitEntries {entries : List Entry} {references : List String}
    (allows : ∀ path ∈ entries.flatMap entryTargets, output.Allows made path)
    (h : emitEntries config registry entries output = .ok references final) :
    ∃ writes, output.Wrote made writes final ∧
      writes.map Prod.fst = entries.flatMap entryTargets := by
  induction entries generalizing output references with
  | nil =>
    cases h
    exact ⟨[], .refl made _, rfl⟩
  | cons entry rest ih =>
    obtain ⟨lines, middle, others, hentry, hothers, -⟩ := steps_of_emitEntries_cons h
    have hfirst : ∀ path ∈ entryTargets entry, output.Allows made path := fun path hpath =>
      allows path (List.mem_append_left _ hpath)
    obtain ⟨-, _, csdl, _, document, copied, -, -, -, hcsdl, -, -, hdocument⟩ :=
      wrote_emitEntry hfirst hentry
    have hwrote := hcsdl.trans hdocument
    obtain ⟨writes, hwrites, hpaths⟩ := ih (fun path hpath =>
      (hwrote.allows_iff path).2 (allows path (List.mem_append_right _ hpath))) hothers
    refine ⟨_, hwrote.trans hwrites, ?_⟩
    rw [List.map_append, hpaths, List.map_append, map_fst_documentWrites]
    rfl

/-- An emission that succeeds writes at its paths, in their order. -/
theorem wrote_emit {summary : Summary}
    (allows : ∀ path ∈ targets registry, output.Allows made path)
    (h : emit config registry output = .ok summary final) :
    ∃ writes, output.Wrote made writes final ∧ writes.map Prod.fst = targets registry := by
  obtain ⟨references, middle, _, written, _, hentries, hmetadata, hcollection, -⟩ := steps_of_emit h
  obtain ⟨writes, hwrites, hpaths⟩ := wrote_emitEntries (fun path hpath =>
    allows path (List.mem_append_left _ hpath)) hentries
  have hmetadata := Output.wrote_write ((hwrites.allows_iff _).2
    (allows metadataTarget (List.mem_append_right _ (by simp)))) hmetadata
  have hboth := hwrites.trans hmetadata
  have hcollection := Output.wrote_write ((hboth.allows_iff _).2
    (allows collectionTarget (List.mem_append_right _ (by simp)))) hcollection
  refine ⟨_, hboth.trans hcollection, ?_⟩
  simp [hpaths, targets]

end ResourceModel.Index

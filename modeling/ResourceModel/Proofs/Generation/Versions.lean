import ResourceModel.Proofs.Generation.Documents
import ResourceModel.Proofs.Generation.Rendering
import ResourceModel.Proofs.Property
import ResourceModel.Proofs.Registry.Deployment
import ResourceModel.Proofs.Registry.History
import ResourceModel.Proofs.Registry.Version

set_option autoImplicit false

/-! # The versions of the nodes

The schema of a node is registered once its model was built, and a versioned entry is never
replaced. So the version that a node declares is the one that is published exactly if its schema was
not held in another version by then; and where it was not, the published copy of the schema document
is the document on which the node was built. -/

namespace ResourceModel

variable {config : Config} {year : Nat}

/-- The entry under which the schema of a node is registered. -/
def Node.entry (node : Node) : Entry :=
  .known node.standard node.schema node.version node.schemaDocument

/-- Whether the properties of a node are built against a document and its type is taken from it. -/
def Node.DrawsOn (node : Node) (document : Json) : Prop :=
  node.scope = ⟨node.schema, document, none⟩ ∧ node.odataType = document.text? "title"

theorem Node.drawsOn_schemaDocument (node : Node) : node.DrawsOn node.schemaDocument :=
  ⟨rfl, rfl⟩

namespace Registry

/-- Building a model changes the registry only as every operation does. -/
theorem WellFormed.buildModel {session : Session} (h : session.registry.WellFormed)
    (assets : Assets) (graph : Graph) (year : Nat) (node : Node) :
    let built := ((NodeModel.build assets graph year node).after session).registry
    session.registry.Becomes built ∧ built.WellFormed :=
  ((invariant_becomes assets session.registry).keeps_buildModel graph year node session
    ⟨trivial, .refl _, h⟩).2

end Registry

namespace Run

/-! ## Registering the nodes -/

/-- The registry when the schema of a node is about to be registered, its model being built. -/
def registryBefore (config : Config) (year : Nat) (call : Node × Run) : Registry :=
  ((NodeModel.build ⟨call.2.files, config⟩ call.2.graph year call.1).after call.2.session).registry

/-- The registry when the schema of a node has been registered. -/
def registryAfter (config : Config) (year : Nat) (call : Node × Run) : Registry :=
  (registryBefore config year call).register call.1.entry

theorem registry_of_generate {node : Node} {run final : Run}
    (h : generate config year node run = .ok () final) :
    final.session.registry = registryAfter config year (node, run) := by
  obtain ⟨model, session, target, written, -, hmodel, -, rfl⟩ := steps_of_generate h
  unfold registryAfter registryBefore
  rw [Step.after_of_ok hmodel]
  rfl

/-- Writing a node: the entries become what they may, and the registry stays well-formed. -/
theorem becomes_registryAfter (config : Config) (year : Nat) {call : Node × Run}
    (h : call.2.session.registry.WellFormed) :
    call.2.session.registry.Becomes (registryAfter config year call) ∧
      (registryAfter config year call).WellFormed := by
  obtain ⟨becomes, wellFormed⟩ := h.buildModel ⟨call.2.files, config⟩ call.2.graph year call.1
  exact ⟨becomes.trans (Registry.grows_register _ _).becomes,
    wellFormed.register (Entry.sound_known _ _ _ _)⟩

/-- Writing nodes: what each of them left in the registry becomes what it may. -/
theorem becomes_generateNodes {nodes : List Node} {run final : Run}
    (wellFormed : run.session.registry.WellFormed)
    (h : generateNodes config year nodes run = .ok () final) :
    run.session.registry.Becomes final.session.registry ∧ final.session.registry.WellFormed ∧
      ∀ call ∈ Step.calls (generate config year) nodes run,
        (registryAfter config year call).Becomes final.session.registry := by
  induction nodes generalizing run with
  | nil =>
    cases h
    exact ⟨.refl _, wellFormed, by simp [Step.calls]⟩
  | cons node rest ih =>
    obtain ⟨middle, hstep, hrest⟩ := Step.each_cons_eq_ok.1 h
    have hregistry := registry_of_generate hstep
    obtain ⟨becomes, wellFormedAfter⟩ :=
      @becomes_registryAfter config year (node, run) wellFormed
    rw [← hregistry] at becomes wellFormedAfter
    obtain ⟨hbecomes, hfinal, hcalls⟩ := ih wellFormedAfter hrest
    rw [Step.calls_cons_of_ok hstep]
    refine ⟨becomes.trans hbecomes, hfinal, List.forall_mem_cons.2 ⟨?_, hcalls⟩⟩
    rw [← hregistry]
    exact hbecomes

theorem registry_of_load {files : FileTree} {count : Nat} {loaded : Run}
    (h : load config (start config files) = .ok count loaded) :
    loaded.session.registry = .empty := by
  let unregistered : Run → Prop := fun run => run.session.registry = .empty
  have kept : KeptByLoading config unregistered := by
    refine ⟨fun anchor declaration => ?_, fun _ _ _ _ _ _ _ hlater => hlater⟩
    have read : ∀ assets, Step.Keeps (fun session : Session => session.registry = .empty)
        (Session.reading (Node.build assets anchor declaration)) := fun assets =>
      Step.Keeps.onPart (fun _ _ => trivial : Step.Keeps (fun _ => True) _) (fun _ _ => trivial)
        fun _ _ hempty _ => hempty
    exact keeps_inSession read (fun _ h => h) fun _ _ _ h => h
  exact kept.keeps_load.of_ok h rfl

/-- A run with success: what each node left in the registry becomes what it may in the registry that
    is published. -/
theorem becomes_generateAll {files : FileTree} {count : Nat} {loaded final : Run}
    {summary : GenerationSummary} (hload : load config (start config files) = .ok count loaded)
    (h : generateAll config year loaded = .ok summary final) :
    final.session.registry.WellFormed ∧ ∀ call ∈ renderings config year loaded,
      (registryAfter config year call).Becomes final.session.registry := by
  obtain ⟨rendered, _, hrender, hfinalize, -⟩ := steps_of_generateAll h
  rw [renderAll_eq] at hrender
  have wellFormed : loaded.session.registry.WellFormed := by
    rw [registry_of_load hload]
    exact Registry.wellFormed_empty
  obtain ⟨-, hrendered, hcalls⟩ := becomes_generateNodes wellFormed hrender
  have invariant := Registry.invariant_becomes ⟨rendered.files, config⟩ rendered.session.registry
  obtain ⟨-, hcompleted, hfinal⟩ :=
    invariant.keeps_finalize.of_ok hfinalize ⟨trivial, .refl _, hrendered⟩
  exact ⟨hfinal, fun call hcall => (hcalls call hcall).trans hcompleted⟩

/-! ## The version of a node -/

/-- The version that is held after registering: an earlier one, or else that of the node. -/
theorem version?_registryAfter {call : Node × Run} {version : Version}
    (h : call.1.version = some version) :
    (registryAfter config year call).version? call.1.schema =
      some (((registryBefore config year call).version? call.1.schema).getD version) := by
  have own : call.1.entry.id = call.1.schema := rfl
  unfold registryAfter
  rw [Registry.version?_register, if_pos own]
  cases (registryBefore config year call).version? call.1.schema with
  | some earlier => rfl
  | none => exact h

/-- Whether the schema of a node is not held otherwise than the node has it, when it is about to be
    registered: it has no version by then, or is held in that of the node, in its bundle. -/
def Unrivalled (config : Config) (year : Nat) (call : Node × Run) : Prop :=
  ∀ held, (registryBefore config year call).get? call.1.schema = some held →
    held.version.isSome = true →
    held.version = call.1.version ∧ held.standard = call.1.standard ∧ held.origin = .bundle

instance (config : Config) (year : Nat) (call : Node × Run) :
    Decidable (Unrivalled config year call) :=
  inferInstanceAs (Decidable (∀ held ∈ (registryBefore config year call).get? call.1.schema, _ → _))

theorem get?_registryAfter_of_unrivalled {call : Node × Run} {version : Version}
    (h : call.1.version = some version) (unrivalled : Unrivalled config year call) :
    ∃ entry, (registryAfter config year call).get? call.1.schema = some entry ∧
      entry.version = some version ∧ entry.standard = call.1.standard ∧ entry.origin = .bundle := by
  have taken : (registryBefore config year call).accepts call.1.entry = true →
      ∃ entry, (registryAfter config year call).get? call.1.schema = some entry ∧
        entry.version = some version ∧ entry.standard = call.1.standard ∧
        entry.origin = .bundle := by
    intro accepts
    refine ⟨call.1.entry, ?_, h, rfl, rfl⟩
    unfold registryAfter
    rw [Registry.get?_register, if_pos ⟨rfl, accepts⟩]
  cases hheld : (registryBefore config year call).get? call.1.schema with
  | none =>
    refine taken (Registry.accepts_iff.2 fun existing hexisting => ?_)
    cases hheld.symm.trans hexisting
  | some held =>
    cases hversion : held.version with
    | none =>
      refine taken (Registry.accepts_iff.2 fun existing hexisting => ?_)
      obtain rfl := Option.some.inj (hheld.symm.trans hexisting)
      exact ⟨hversion, Option.isSome_of_eq_some h⟩
    | some earlier =>
      have versioned : held.version.isSome = true := Option.isSome_of_eq_some hversion
      obtain ⟨hsame, hstandard, horigin⟩ := unrivalled held hheld versioned
      exact ⟨held, (Registry.grows_register _ _).get?_of_versioned hheld versioned,
        hsame.trans h, hstandard, horigin⟩

/-- What registering leaves of such a schema is still there in the end. -/
theorem get?_of_unrivalled {call : Node × Run} {version : Version} {registry : Registry}
    (becomes : (registryAfter config year call).Becomes registry)
    (h : call.1.version = some version) (unrivalled : Unrivalled config year call) :
    ∃ entry, registry.get? call.1.schema = some entry ∧ entry.version = some version ∧
      entry.standard = call.1.standard ∧ entry.origin = .bundle := by
  obtain ⟨registered, hregistered, hversion, hstandard, horigin⟩ :=
    get?_registryAfter_of_unrivalled h unrivalled
  obtain ⟨entry, hentry, hbecomes⟩ := becomes _ registered hregistered
  cases hbecomes with
  | kept standard origin version _ _ =>
    exact ⟨entry, hentry, version.trans hversion, standard.trans hstandard, origin.trans horigin⟩
  | superseded unversioned _ =>
    rw [hversion] at unversioned
    cases unversioned

/-! ## The document of a node -/

/-- Whether a run publishes its schemas beside the documents: their ids are plain words, the root of
    the index lies apart from the documents, and these are still what they were when the nodes were
    built. -/
structure PublishesBeside (config : Config) (year : Nat) (loaded final : Run) : Prop where
  words : ∀ entry ∈ Table.values final.session.registry.entries,
    IsWord entry.id ∧ entry.id ≠ "index"
  apart : ∀ entry ∈ Table.values final.session.registry.entries, Index.LiesApart config
    (.start config.output.wwwDir ((renderAll config year).after loaded).files) entry
  same : ∀ entry ∈ Table.values final.session.registry.entries, Index.SameSources config
    loaded.files ((renderAll config year).after loaded).files entry

instance (config : Config) (year : Nat) (loaded final : Run) :
    Decidable (PublishesBeside config year loaded final) :=
  let entries := Table.values final.session.registry.entries
  let files := ((renderAll config year).after loaded).files
  decidable_of_iff ((∀ entry ∈ entries, IsWord entry.id ∧ entry.id ≠ "index") ∧
      (∀ entry ∈ entries, Index.LiesApart config (.start config.output.wwwDir files) entry) ∧
      ∀ entry ∈ entries, Index.SameSources config loaded.files files entry)
    ⟨fun ⟨words, apart, same⟩ => ⟨words, apart, same⟩,
      fun beside => ⟨beside.words, beside.apart, beside.same⟩⟩

/-- The published copy of a bundle's schema document holds what the files hold for its stem when the
    models have been written. -/
theorem bytes?_documentTarget_of_generateAll {loaded final : Run} {summary : GenerationSummary}
    (wellFormed : final.session.registry.WellFormed)
    (h : generateAll config year loaded = .ok summary final)
    (beside : PublishesBeside config year loaded final) {entry : Entry}
    (hentry : entry ∈ Table.values final.session.registry.entries)
    (horigin : entry.origin = .bundle) :
    ∃ source document,
      (⟨loaded.files, config⟩ : Assets).jsonPath? entry.standard entry.stem = some source ∧
      loaded.files.bytes? source = some document ∧
      final.files.bytes? (config.output.wwwDir.join ⟨Index.documentTarget entry⟩) =
        some document := by
  obtain ⟨rendered, _, hrender, -, hemit⟩ := steps_of_generateAll h
  obtain ⟨words, apart, same⟩ := beside
  rw [Step.after_of_ok hrender] at apart same
  obtain ⟨last, hindex, -, rows, hlisted, hlisting⟩ := steps_of_emit hemit
  obtain ⟨source, document, hsource, hdocument, -, hcopied⟩ :=
    Index.holds_documentTarget_of_emit (Index.pairwise_ne_id wellFormed.sorted wellFormed.own) words
      rfl apart hindex hentry horigin
  have hfound := (Index.jsonPath?_eq (same entry hentry) horigin).symm.trans hsource
  have hbytes := same entry hentry source (Index.mem_sources_of_jsonPath? horigin hfound)
  refine ⟨source, document, hfound, hbytes.symm.trans hdocument, ?_⟩
  -- the listing, which is written last, lies directly below the root
  have htarget : Output.IsFilePath (Index.documentTarget entry) := by
    refine Index.isFilePath_entryTargets (words entry hentry).1 _ (List.mem_cons_of_mem _ ?_)
    unfold Index.documentTargets
    rw [horigin]
    exact List.mem_cons_self
  have hlistingName : Path.Segment Artifacts.listingName := ⟨by decide, by decide⟩
  obtain ⟨_, hwrote, -⟩ := Index.wrote_emit (fun path _ => Output.allows_any _ path) hindex
  have hroot : last.artifacts.root = config.output.wwwDir := hwrote.root
  rw [← hroot]
  refine hlisted.bytes?_of_unwritten hcopied fun row hrow => ?_
  rw [(hlisting row hrow).2]
  exact htarget.placeOf_ne hlistingName last

/-- After a run with success the schema of a node with a version is held in the version in which it
    was held when the node was about to be registered, or else in that of the node. If it was not
    held otherwise than the node has it, the published copy of its schema document is the document
    that the properties and the type of the node are drawn from. -/
theorem version?_and_document_of_node {files : FileTree} {count : Nat} {loaded final : Run}
    {summary : GenerationSummary} (hload : load config (start config files) = .ok count loaded)
    (h : generateAll config year loaded = .ok summary final) :
    let calls := renderings config year loaded
    calls.map Prod.fst = loaded.graph.nodes ∧
      ∀ call ∈ calls, ∀ version, call.1.version = some version →
        final.session.registry.version? call.1.schema =
            some (((registryBefore config year call).version? call.1.schema).getD version) ∧
          (Unrivalled config year call → PublishesBeside config year loaded final →
            ∃ entry text document, final.session.registry.get? call.1.schema = some entry ∧
              entry.version = some version ∧ entry.standard = call.1.standard ∧
              final.files.text? (config.output.wwwDir.join ⟨Index.documentTarget entry⟩) =
                some text ∧
              Json.parse text = some document ∧ call.1.DrawsOn document) := by
  intro calls
  obtain ⟨wellFormed, becomes⟩ := becomes_generateAll hload h
  obtain ⟨hnodes, -⟩ := writes_generateAll h
  refine ⟨hnodes, fun call hcall version hversion => ⟨?_, fun unrivalled beside => ?_⟩⟩
  · exact (becomes call hcall).version?_eq (version?_registryAfter hversion)
  · obtain ⟨entry, hentry, hheld, hstandard, horigin⟩ :=
      get?_of_unrivalled (becomes call hcall) hversion unrivalled
    have hmem : entry ∈ Table.values final.session.registry.entries :=
      List.mem_map_of_mem (Table.mem_of_get? hentry)
    have hnode : call.1 ∈ loaded.graph.nodes := hnodes ▸ List.mem_map_of_mem hcall
    have hstem : entry.stem = stemOf call.1.schema call.1.version := by
      rw [Entry.stem, wellFormed.id_of_get? hentry, hheld, hversion]
    obtain ⟨source, content, hsource, hcontent, hcopied⟩ :=
      bytes?_documentTarget_of_generateAll wellFormed h beside hmem horigin
    obtain ⟨path, read, text, hpath, hread, htext, hparse⟩ :=
      (reads_of_load hload call.1 hnode).text
    -- the files are those of the start, so both have found one document
    rw [hstandard, hstem, (models_of_load hload).2] at hsource
    obtain rfl := Option.some.inj (hpath.symm.trans hsource)
    rw [(models_of_load hload).2] at hcontent
    obtain rfl := Option.some.inj (hread.symm.trans hcontent)
    refine ⟨entry, text, call.1.schemaDocument, hentry, hheld, hstandard, ?_, hparse,
      call.1.drawsOn_schemaDocument⟩
    unfold FileTree.text?
    rw [hcopied, Option.bind_some, htext]

/-- A declared node in version 1.0.0, whose document mentions the schema in the version of a tag. -/
def mentioningFiles (tag : String) : FileTree :=
  ⟨[(["redfish"], .directory),
    (["redfish", "X.yaml"], .file ("X: \x7bSchema: X, Version: 1.0.0, " ++
      "Properties: \x7bStatic: [\x7bName: P, Value: 1\x7d]\x7d\x7d").toUTF8),
    (["s"], .directory), (["s", "csdl"], .directory), (["s", "csdl", "X_v1.xml"], .file .empty),
    (["s", "json-schema"], .directory),
    (["s", "json-schema", "X.json"], .file ("\x7b\"definitions\":\x7b\"X\":\x7b" ++
      "\"description\":\"\",\"longDescription\":\"\"," ++
      "\"uris\":[\"/redfish/X\"]\x7d\x7d\x7d").toUTF8),
    (["s", "json-schema", "X.v1_0_0.json"], .file ("\x7b\"definitions\":\x7b\"X\":\x7b" ++
      "\"$ref\":\"X." ++ tag ++ ".json\",\"P\":\x7b\"$ref\":\"#\"\x7d\x7d\x7d\x7d").toUTF8),
    (["s", "json-schema", "X.v1_1_0.json"], .file "\x7b\x7d".toUTF8),
    (["s", "openapi"], .directory), (["s", "openapi", "X.yaml"], .file .empty)], []⟩

theorem version?_and_document_of_mentioned :
    ∃ (count : Nat) (loaded final : Run) (summary : GenerationSummary) (call : Node × Run)
      (version : Version),
      load bareConfig (start bareConfig (mentioningFiles "v1_0_0")) = .ok count loaded ∧
      generateAll bareConfig 0 loaded = .ok summary final ∧
      call ∈ renderings bareConfig 0 loaded ∧ call.1.version = some version ∧
      ((registryBefore bareConfig 0 call).get? call.1.schema).isSome = true ∧
      Unrivalled bareConfig 0 call ∧ PublishesBeside bareConfig 0 loaded final ∧
      final.session.registry.version? call.1.schema = some version ∧
      ∃ entry text document, final.session.registry.get? call.1.schema = some entry ∧
        final.files.text? (bareConfig.output.wwwDir.join ⟨Index.documentTarget entry⟩) =
          some text ∧
        Json.parse text = some document ∧ call.1.DrawsOn document := by
  have hload : load bareConfig (start bareConfig (mentioningFiles "v1_0_0")) =
      loadStored bareConfig ["redfish"] (start bareConfig (mentioningFiles "v1_0_0")) :=
    load_of_inOrder (by decide +kernel) (by decide +kernel) (by decide +kernel)
  set_option synthInstance.maxSize 256 in
  obtain ⟨count, loaded, hstored, summary, final, hgenerate, beside, call, hcall, hversion,
      hbefore, unrivalled⟩ : ∃ count loaded, loadStored bareConfig ["redfish"]
        (start bareConfig (mentioningFiles "v1_0_0")) = .ok count loaded ∧
      ∃ summary final, generateAll bareConfig 0 loaded = .ok summary final ∧
        PublishesBeside bareConfig 0 loaded final ∧ ∃ call ∈ renderings bareConfig 0 loaded,
          call.1.version = some ⟨"v1_0_0", 1, 0, 0⟩ ∧
          (registryBefore bareConfig 0 call).version? call.1.schema = call.1.version ∧
          Unrivalled bareConfig 0 call := by decide +kernel
  rw [← hload] at hstored
  rw [hversion] at hbefore
  obtain ⟨held, hheld, -⟩ := Option.bind_eq_some_iff.1 hbefore
  obtain ⟨hdeclared, hpublished⟩ :=
    (version?_and_document_of_node hstored hgenerate).2 call hcall _ hversion
  obtain ⟨entry, text, document, hentry, _, _, htext, hparse, hdraws⟩ :=
    hpublished unrivalled beside
  refine ⟨count, loaded, final, summary, call, _, hstored, hgenerate, hcall, hversion,
    Option.isSome_of_eq_some hheld, unrivalled, beside, ?_, entry, text, document, hentry, htext,
    hparse, hdraws⟩
  rw [hdeclared, hbefore, Option.getD_some]

/-- A versioned entry is never replaced, so what other documents mention may decide the version of a
    node's schema although all nodes of the schema declare one version. -/
theorem not_version?_of_node_always :
    ¬ ∀ (config : Config) (year count : Nat) (files : FileTree) (loaded final : Run)
      (summary : GenerationSummary), load config (start config files) = .ok count loaded →
      (∀ first ∈ loaded.graph.nodes, ∀ second ∈ loaded.graph.nodes,
        first.schema = second.schema → first.version = second.version) →
      generateAll config year loaded = .ok summary final →
      ∀ node ∈ loaded.graph.nodes, ∀ version, node.version = some version →
        final.session.registry.version? node.schema = some version := by
  intro holds
  have hload : load bareConfig (start bareConfig (mentioningFiles "v1_1_0")) =
      loadStored bareConfig ["redfish"] (start bareConfig (mentioningFiles "v1_1_0")) :=
    load_of_inOrder (by decide +kernel) (by decide +kernel) (by decide +kernel)
  obtain ⟨count, loaded, hstored, summary, final, hgenerate, hone, node, hnode, hversion, hother⟩ :
      ∃ count loaded, loadStored bareConfig ["redfish"]
        (start bareConfig (mentioningFiles "v1_1_0")) = .ok count loaded ∧
      ∃ summary final, generateAll bareConfig 0 loaded = .ok summary final ∧
        loaded.graph.nodes.length = 1 ∧
        ∃ node ∈ loaded.graph.nodes, node.version = some ⟨"v1_0_0", 1, 0, 0⟩ ∧
          final.session.registry.version? node.schema ≠ node.version := by decide +kernel
  rw [← hload] at hstored
  obtain ⟨only, honly⟩ := List.length_eq_one_iff.1 hone
  have held := holds bareConfig 0 count _ loaded final summary hstored (by simp [honly]) hgenerate
    node hnode _ hversion
  exact hother (held.trans hversion.symm)

end Run

end ResourceModel

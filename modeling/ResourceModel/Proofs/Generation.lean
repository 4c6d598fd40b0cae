import ResourceModel.Generation
import ResourceModel.Proofs.Registry.Coverage

set_option autoImplicit false

/-! # What a run covers

A run registers the schema of each node as resolved, so the document of a node is not scanned when
the registry is completed. What that document mentions has a resolved entry in the end if it is
covered otherwise: by what was registered while the nodes were written, by the seeds, or by the
documents that are scanned. -/

namespace ResourceModel.Run

/-! ## Parts of a run -/

theorem inSession_eq_ok {α : Type} {config : Config} {step : Assets → Step Session α}
    {run final : Run} {value : α} :
    inSession config step run = .ok value final ↔
      ∃ session, step ⟨run.files, config⟩ run.session = .ok value session ∧
        final = { run with session } :=
  Step.onPart_eq_ok

/-- Writing the index changes nothing of what is registered. -/
theorem session_of_emit {config : Config} {run final : Run} {summary : Index.Summary}
    (h : emit config run = .ok summary final) : final.session = run.session := by
  obtain ⟨_, _, hget, hrest⟩ := Step.bind_eq_ok.1 h
  cases hget
  obtain ⟨output, _, rfl⟩ := Step.onPart_eq_ok.1 hrest
  rfl

theorem renderAll_eq (config : Config) (year : Nat) (run : Run) :
    renderAll config year run = generateNodes config year run.graph.nodes run :=
  rfl

/-- A run with success has written every model, completed the registry, and written the index of what
    is registered then. -/
theorem steps_of_generateAll {config : Config} {year : Nat} {run final : Run}
    {summary : GenerationSummary} (h : generateAll config year run = .ok summary final) :
    ∃ rendered index, renderAll config year run = .ok () rendered ∧
      Registry.finalize ⟨rendered.files, config⟩ rendered.session = .ok () final.session ∧
      emit config { rendered with session := final.session } = .ok index final := by
  obtain ⟨_, rendered, hrender, hcompletes⟩ := Step.bind_eq_ok.1 h
  obtain ⟨_, completed, hfinalize, hemits⟩ := Step.bind_eq_ok.1 hcompletes
  obtain ⟨session, hsession, rfl⟩ := inSession_eq_ok.1 hfinalize
  obtain ⟨index, emitted, hemit, hanswer⟩ := Step.bind_eq_ok.1 hemits
  cases hanswer
  have hregistered : final.session = session := session_of_emit hemit
  rw [hregistered]
  exact ⟨rendered, index, hrender, hsession, hemit⟩

/-! ## The documents of nodes -/

/-- Whether every schema that the document of a node mentions has a resolved entry. -/
def Publishes (registry : Registry) (node : Node) : Prop :=
  ∀ mentioned, node.schemaDocument.Mentions mentioned → registry.HasResolved mentioned.id

/-- After a run with success the registry publishes what the document of a node mentions exactly if
    all of it is covered: it had an entry when the last model was written, is always emitted, is that
    of an extension document, or is mentioned in an extension document or in one that was read to
    resolve an entry. -/
theorem publishes_iff_covered {config : Config} {year : Nat} {run final : Run}
    {summary : GenerationSummary} (h : generateAll config year run = .ok summary final) :
    let rendered := (renderAll config year).after run
    ∀ node ∈ run.graph.nodes, Publishes final.session.registry node ↔
      ∀ mentioned, node.schemaDocument.Mentions mentioned →
        Registry.Covered ⟨rendered.files, config⟩ rendered.session mentioned.id := by
  obtain ⟨rendered, _, hrender, hfinalize, -⟩ := steps_of_generateAll h
  rw [Step.after_of_ok hrender]
  intro _ node _
  refine forall_congr' fun mentioned => imp_congr_right fun _ => ?_
  exact Registry.hasResolved_finalize_iff hfinalize

/-- A node without properties, the document of which mentions the node's own schema and another
    one. -/
def mentioningNode : Node where
  key := "A"
  name := none
  segment := "A"
  leading := []
  id := "/A"
  standard := .redfish
  schema := "A"
  version := none
  parent := none
  parameter := none
  children := .none
  declaration := ⟨"A", false, .object []⟩
  openapi := .null
  spec := .object [("definitions", .object
    [("A", .object [("$ref", .string "A.json"), ("description", .null), ("longDescription", .null),
      ("uris", .array [.string "/A"])]),
    ("B", .object [("$ref", .string "B.json")])])]
  versioned := none
  namespaces := []

/-- A configuration without schemas that are always emitted, over a bundle in the directory `s`. -/
def bareConfig : Config where
  assets := { redfishBundle := ⟨"s"⟩ }
  output := { writeChecksums := false }
  registry := { baseline := [], fileMap := [] }

/-- The configuration with one schema that is always emitted, from a bundle in the directory `t`. -/
def baselineConfig : Config where
  assets := { redfishBundle := ⟨"s"⟩, swordfishBundle := ⟨"t"⟩ }
  output := { writeChecksums := false }
  registry := { baseline := [("C", "redfish/swordfish")], fileMap := [] }

/-- The run in which the node has been built. The schema that is always emitted mentions the other
    one too. -/
def mentioningRun : Run :=
  let leading := "\x7b\"definitions\":\x7b\"C\":\x7b\"$ref\":\"B.v1_0_0.json\"\x7d\x7d\x7d"
  { start baselineConfig ⟨[(["s"], .directory), (["s", "json-schema"], .directory),
      (["s", "json-schema", "A.json"], .file .empty),
      (["s", "json-schema", "B.v1_0_0.json"], .file "\x7b\x7d".toUTF8),
      (["s", "csdl"], .directory), (["s", "csdl", "A_v1.xml"], .file .empty),
      (["s", "csdl", "B_v1.xml"], .file .empty), (["t"], .directory),
      (["t", "json-schema"], .directory), (["t", "json-schema", "C.json"], .file leading.toUTF8),
      (["t", "csdl-schema"], .directory), (["t", "csdl-schema", "C_v1.xml"], .file .empty)], []⟩ with
    graph := ⟨[mentioningNode]⟩ }

/-- The node's own schema is held before the closure starts, the other one is come to through a
    document that the closure scans. -/
theorem publishes_mentioningNode :
    let rendered := (renderAll baselineConfig 0).after mentioningRun
    ∃ summary final, generateAll baselineConfig 0 mentioningRun = .ok summary final ∧
      (rendered.session.registry.get? "B").isNone ∧
      Publishes final.session.registry mentioningNode := by
  intro rendered
  obtain ⟨summary, final, h⟩ : ∃ summary final,
      generateAll baselineConfig 0 mentioningRun = .ok summary final := by decide +kernel
  have held : (rendered.session.registry.get? "A").isSome ∧
      (rendered.session.registry.get? "B").isNone := by decide +kernel
  have scanned : ∃ document ∈ Registry.scanned ⟨rendered.files, baselineConfig⟩ rendered.session,
      ∃ mentioned ∈ (Scan.ofDocument 10 document).mentions, mentioned.id = "B" := by
    decide +kernel
  have mentions : (Scan.ofDocument 10 mentioningNode.schemaDocument).mentions =
      [⟨.redfish, "A", none⟩, ⟨.redfish, "B", none⟩] := by decide +kernel
  have complete : (Scan.ofDocument 10 mentioningNode.schemaDocument).complete := rfl
  refine ⟨summary, final, h, held.2, ?_⟩
  refine (publishes_iff_covered h mentioningNode (List.mem_singleton.2 rfl)).2 ?_
  intro mentioned hmentions
  have hmem := (Scan.mem_mentions_ofDocument complete).2 hmentions
  rw [mentions] at hmem
  rcases List.mem_pair.1 hmem with rfl | rfl
  · exact .held held.1
  · obtain ⟨document, hscanned, other, hother, hid⟩ := scanned
    exact .mentioned hscanned ⟨other, Scan.mentions_of_mem_mentions hother, hid⟩

/-- A declared node without properties, and a bundle in which its schema mentions another one. -/
def unscannedFiles : FileTree :=
  ⟨[(["redfish"], .directory), (["redfish", "A.yaml"], .file "A: \x7bSchema: A\x7d".toUTF8),
    (["s"], .directory), (["s", "json-schema"], .directory),
    (["s", "json-schema", "A.json"], .file ("\x7b\"definitions\":\x7b\"A\":\x7b" ++
      "\"description\":\"\",\"longDescription\":\"\",\"uris\":[\"/redfish/A\"]\x7d," ++
      "\"B\":\x7b\"$ref\":\"B.json\"\x7d\x7d\x7d").toUTF8),
    (["s", "json-schema", "B.json"], .file "\x7b\x7d".toUTF8),
    (["s", "openapi"], .directory), (["s", "openapi", "A.yaml"], .file .empty),
    (["s", "csdl"], .directory), (["s", "csdl", "A_v1.xml"], .file .empty),
    (["s", "csdl", "B_v1.xml"], .file .empty)], []⟩

/-- The document of a node is not scanned, so what it mentions may stay unpublished although a run
    succeeds. -/
theorem not_publishes_of_generateAll :
    ¬ ∀ (config : Config) (year count : Nat) (files : FileTree) (loaded final : Run)
      (summary : GenerationSummary), load config (start config files) = .ok count loaded →
      generateAll config year loaded = .ok summary final →
      ∀ node ∈ loaded.graph.nodes, Publishes final.session.registry node := by
  intro publishes
  obtain ⟨count, loaded, hload, summary, final, hgenerate, node, hnode, mentioned, hmem, hnone⟩ :
      ∃ count loaded, load bareConfig (start bareConfig unscannedFiles) = .ok count loaded ∧
        ∃ summary final, generateAll bareConfig 0 loaded = .ok summary final ∧
          ∃ node ∈ loaded.graph.nodes,
            ∃ mentioned ∈ (Scan.ofDocument 10 node.schemaDocument).mentions,
              (final.session.registry.get? mentioned.id).isNone := by decide +kernel
  obtain ⟨entry, hentry, _⟩ := publishes bareConfig 0 count unscannedFiles loaded final summary
    hload hgenerate node hnode mentioned (Scan.mentions_of_mem_mentions hmem)
  rw [hentry] at hnone
  simp at hnone

end ResourceModel.Run

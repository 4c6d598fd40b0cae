import ResourceModel.Proofs.Generation
import ResourceModel.Proofs.Generation.Loading
import ResourceModel.Proofs.Path
import ResourceModel.Proofs.Registry.Emission

set_option autoImplicit false

/-! # The models that a run leaves

A model is written to a file that is named after the class of its node, and nothing keeps two nodes
from having one class. So what a run leaves is told file by file: each holds the model of the last
node whose file it is. -/

namespace ResourceModel.Run

variable {config : Config} {year : Nat}

/-! ## Writing one model -/

/-- The calls in which the nodes of a run are written, each with the state in which it begins. -/
def renderings (config : Config) (year : Nat) (run : Run) : List (Node × Run) :=
  Step.calls (generate config year) run.graph.nodes run

/-- The text of the model of a node, in a state of the run. -/
def modelText? (config : Config) (year : Nat) (call : Node × Run) : Option String :=
  match NodeModel.build ⟨call.2.files, config⟩ call.2.graph year call.1 call.2.session with
  | .ok model _ => some model.toJson.pretty
  | .error _ _ => none

/-- The writing of the model of a node. -/
def modelRow (config : Config) (year : Nat) (call : Node × Run) : String × ByteArray :=
  (modelFile call.1.classname, ((modelText? config year call).getD "").toUTF8)

theorem modelRow_eq {call : Node × Run} {text : String}
    (h : modelText? config year call = some text) :
    modelRow config year call = (modelFile call.1.classname, text.toUTF8) := by
  unfold modelRow
  rw [h, Option.getD_some]

/-- The models that were written, and the files. -/
def output (run : Run) : Output :=
  ⟨run.models, run.files⟩

theorem classname_of_build {assets : Assets} {graph : Graph} {node : Node} {model : NodeModel}
    {session final : Session}
    (h : NodeModel.build assets graph year node session = .ok model final) :
    model.classname = node.classname := by
  obtain ⟨_, _, _, h⟩ := Step.bind_eq_ok.1 h
  obtain ⟨_, _, _, h⟩ := Step.bind_eq_ok.1 h
  obtain ⟨_, _, _, h⟩ := Step.bind_eq_ok.1 h
  obtain ⟨_, _, _, h⟩ := Step.bind_eq_ok.1 h
  obtain ⟨_, _, _, h⟩ := Step.bind_eq_ok.1 h
  obtain ⟨_, _, _, h⟩ := Step.bind_eq_ok.1 h
  obtain ⟨rfl, -⟩ := Step.pure_eq_ok.1 h
  rfl

/-- What writing a node with success does: the node is valid, its model is built and written, and its
    schema is registered with its document. -/
theorem steps_of_generate {node : Node} {run final : Run}
    (h : generate config year node run = .ok () final) :
    ∃ model session target written, node.validate = .ok () ∧
      NodeModel.build ⟨run.files, config⟩ run.graph year node run.session = .ok model session ∧
      Output.write (modelFile node.classname) model.toJson.pretty run.output =
        .ok target written ∧
      final = ⟨⟨session.store, session.registry.register
          (.known node.standard node.schema node.version node.schemaDocument)⟩,
        run.graph, written.files, written.artifacts⟩ := by
  obtain ⟨_, _, hchecks, hreads⟩ := Step.bind_eq_ok.1 h
  obtain ⟨hvalid, rfl⟩ := Step.ofExcept_eq_ok.1 hchecks
  obtain ⟨_, _, hget, hbuilds⟩ := Step.bind_eq_ok.1 hreads
  cases hget
  obtain ⟨model, built, hbuild, hwrites⟩ := Step.bind_eq_ok.1 hbuilds
  obtain ⟨session, hmodel, rfl⟩ := inSession_eq_ok.1 hbuild
  obtain ⟨target, later, hwriting, hregisters⟩ := Step.bind_eq_ok.1 hwrites
  obtain ⟨written, hwrite, rfl⟩ := Step.onPart_eq_ok.1 hwriting
  rw [classname_of_build hmodel] at hwrite
  cases hregisters
  exact ⟨model, session, target, written, hvalid, hmodel, hwrite, rfl⟩

/-- Writing a node writes its model to the file of its class. -/
theorem wrote_generate {node : Node} {run final : Run}
    (h : generate config year node run = .ok () final) :
    (modelText? config year (node, run)).isSome = true ∧
      run.output.Wrote (fun _ => True) [modelRow config year (node, run)] final.output := by
  obtain ⟨model, session, target, written, -, hmodel, hwrite, rfl⟩ := steps_of_generate h
  have htext : modelText? config year (node, run) = some model.toJson.pretty := by
    simp only [modelText?, hmodel]
  have hwrote := Output.wrote_write (Output.allows_any _ _) hwrite
  rw [modelRow_eq htext, htext]
  exact ⟨rfl, hwrote⟩

/-- Writing nodes writes their models, one after the other. -/
theorem wrote_generateNodes {nodes : List Node} {run final : Run}
    (h : generateNodes config year nodes run = .ok () final) :
    let calls := Step.calls (generate config year) nodes run
    (∀ call ∈ calls, (modelText? config year call).isSome = true) ∧
      run.output.Wrote (fun _ => True) (calls.map (modelRow config year)) final.output := by
  induction nodes generalizing run with
  | nil =>
    cases h
    exact ⟨by simp [Step.calls], .refl _ _⟩
  | cons node rest ih =>
    obtain ⟨middle, hstep, hrest⟩ := Step.each_cons_eq_ok.1 h
    obtain ⟨htext, hwrote⟩ := wrote_generate hstep
    obtain ⟨htexts, hwrites⟩ := ih hrest
    rw [Step.calls_cons_of_ok hstep]
    exact ⟨List.forall_mem_cons.2 ⟨htext, htexts⟩, hwrote.trans hwrites⟩

/-! ## What is published beside the models -/

/-- The paths below the root of the deployment tree that a run writes to. -/
def published (config : Config) (registry : Registry) : List String :=
  Index.targets registry ++ if config.output.writeChecksums then [Artifacts.listingName] else []

theorem writes_finish {output final : Output} {target : Path}
    (h : Output.finish output = .ok target final) :
    ∃ content, output.files.Writes (fun _ => True)
      [(output.placeOf Artifacts.listingName, content)] final.files := by
  have hmade : output.files.Writes (fun _ => True) []
      (output.files.makeDirectory output.artifacts.root).2 :=
    FileTree.writes_makeDirectory fun _ _ => trivial
  unfold Output.finish Artifacts.finish at h
  generalize output.artifacts.listing.toUTF8 = content at h
  rcases hmake : output.files.makeDirectory output.artifacts.root with ⟨done, files⟩
  rw [hmake] at hmade
  simp only [hmake] at h
  cases done with
  | false => cases h
  | true =>
    simp only at h
    split at h
    · next path later hlater =>
      cases h
      split at hlater
      · next later hfile =>
        cases hlater
        obtain ⟨hwrites, -, -⟩ := FileTree.writes_writeFile? (fun _ => True) hfile
        rw [hmade.placeOf] at hwrites
        exact ⟨content, hmade.trans hwrites⟩
      · cases hlater
    · cases h

/-- What publishing does: the index of schemas is written, and then the listing of it if one is
    wanted. -/
theorem steps_of_emit {run final : Run} {summary : Index.Summary}
    (h : emit config run = .ok summary final) :
    ∃ emitted : Output, Index.emit config run.session.registry
        (.start config.output.wwwDir run.files) = .ok summary emitted ∧
      final = { run with files := final.files } ∧
      ∃ rows, emitted.files.Writes (fun _ => True) rows final.files ∧
        ∀ row ∈ rows, config.output.writeChecksums = true ∧
          row.1 = emitted.placeOf Artifacts.listingName := by
  obtain ⟨_, _, hget, hrest⟩ := Step.bind_eq_ok.1 h
  cases hget
  obtain ⟨last, hbelow, rfl⟩ := Step.onPart_eq_ok.1 hrest
  obtain ⟨answered, emitted, hemit, hlisting⟩ := Step.bind_eq_ok.1 hbelow
  split at hlisting
  · next hchecksums =>
    obtain ⟨target, listed, hfinish, hanswer⟩ := Step.bind_eq_ok.1 hlisting
    obtain ⟨rfl, rfl⟩ := Step.pure_eq_ok.1 hanswer
    obtain ⟨content, hlisted⟩ := writes_finish hfinish
    refine ⟨emitted, hemit, rfl, _, hlisted, fun row hrow => ?_⟩
    obtain rfl := List.mem_singleton.1 hrow
    exact ⟨hchecksums, rfl⟩
  · obtain ⟨rfl, rfl⟩ := Step.pure_eq_ok.1 hlisting
    exact ⟨_, hemit, rfl, [], .refl _ _, by simp⟩

/-- Publishing writes no models, and files only where the published paths lead. -/
theorem writes_emit {run final : Run} {summary : Index.Summary}
    (h : emit config run = .ok summary final) :
    final.models = run.models ∧ ∃ rows, run.files.Writes (fun _ => True) rows final.files ∧
      ∀ row ∈ rows, ∃ path ∈ published config run.session.registry,
        row.1 = run.files.placeOf (config.output.wwwDir.join ⟨path⟩) := by
  obtain ⟨emitted, hemit, hfinal, rows, hlisted, hlisting⟩ := steps_of_emit h
  obtain ⟨writes, hwrote, hpaths⟩ := Index.wrote_emit
    (fun path _ => Output.allows_any _ path) hemit
  refine ⟨by rw [hfinal], _, hwrote.files.trans hlisted, fun row hrow => ?_⟩
  rcases List.mem_append.1 hrow with hrow | hrow
  · obtain ⟨write, hwrite, rfl⟩ := List.mem_map.1 hrow
    refine ⟨write.1, List.mem_append_left _ ?_, rfl⟩
    rw [← hpaths]
    exact List.mem_map_of_mem hwrite
  · obtain ⟨hchecksums, hplace⟩ := hlisting row hrow
    refine ⟨Artifacts.listingName, List.mem_append_right _ ?_,
      hplace.trans (hwrote.placeOf_eq _)⟩
    rw [if_pos hchecksums]
    exact List.mem_singleton.2 rfl

/-! ## What a run leaves of its models -/

/-- The path of the file for the models of a class. -/
def modelPath (config : Config) (classname : String) : Path :=
  config.output.generatedDir.join ⟨modelFile classname⟩

theorem segment_modelFile {classname : String} (whole : '/' ∉ classname.toList) :
    Path.Segment (modelFile classname) :=
  Path.segment_append (by decide) ⟨whole, by decide⟩

/-- Two classes whose names hold no slash have one file only if they have one name. -/
theorem placeOf_modelPath_eq_iff {files : FileTree} {first second : String}
    (hfirst : '/' ∉ first.toList) (hsecond : '/' ∉ second.toList) :
    files.placeOf (modelPath config first) = files.placeOf (modelPath config second) ↔
      first = second := by
  refine ⟨fun h => ?_, fun h => by rw [h]⟩
  have hplace : ∀ classname : String, '/' ∉ classname.toList →
      files.placeOf (modelPath config classname) =
        FileTree.placeAfter files.work config.output.generatedDir.components ++
          [modelFile classname] := by
    intro classname whole
    have hsegment := segment_modelFile whole
    have hcomponents : (modelPath config classname).components =
        config.output.generatedDir.components ++ [modelFile classname].map .name :=
      Path.components_join hsegment.splitParts_eq (by simpa using hsegment)
    rw [FileTree.placeOf, hcomponents, FileTree.placeAfter_append, FileTree.placeAfter_names]
  rw [hplace first hfirst, hplace second hsecond] at h
  have hfile : modelFile first = modelFile second := by simpa using h
  exact String.append_left_inj _ |>.1 hfile

/-- Whether the files hold the model of a node, as it was when it was written. -/
def HoldsModel (config : Config) (year : Nat) (files : FileTree) (call : Node × Run) : Prop :=
  ∃ text, modelText? config year call = some text ∧
    files.bytes? (modelPath config call.1.classname) = some text.toUTF8

/-- The last node of the given calls that has its file where a class has it. -/
def lastInFile? (config : Config) (files : FileTree) (calls : List (Node × Run))
    (classname : String) : Option (Node × Run) :=
  calls.reverse.find? fun call =>
    files.placeOf (modelPath config call.1.classname) =
      files.placeOf (modelPath config classname)

/-- Whether nothing is published where a class has its file. -/
def Unspoiled (config : Config) (run : Run) (classname : String) : Prop :=
  ∀ path ∈ published config run.session.registry,
    run.files.placeOf (config.output.wwwDir.join ⟨path⟩) ≠
      run.files.placeOf (modelPath config classname)

instance (config : Config) (final : Run) (classname : String) :
    Decidable (Unspoiled config final classname) :=
  inferInstanceAs (Decidable (∀ path ∈ _, _))

theorem lookup_map_eq_find? {α β : Type} {κ : Type} [BEq κ] [LawfulBEq κ] [DecidableEq κ]
    (place : α → κ) (content : α → β) (values : List α) (key : κ) :
    (values.map fun value => (place value, content value)).lookup key =
      (values.find? fun value => place value = key).map content := by
  induction values with
  | nil => rfl
  | cons value rest ih =>
    rw [List.map_cons, List.lookup_cons, List.find?_cons]
    by_cases hkey : place value = key
    · simp [hkey]
    · have hne : (key == place value) = false := beq_eq_false_iff_ne.2 (Ne.symm hkey)
      simp [hkey, hne, ih]

/-- What is written of a run with success: the models, one after the other, and then what is
    published. -/
theorem writes_generateAll {run final : Run} {summary : GenerationSummary}
    (h : generateAll config year run = .ok summary final) :
    let calls := renderings config year run
    calls.map Prod.fst = run.graph.nodes ∧
      (∀ call ∈ calls, (modelText? config year call).isSome = true) ∧
      ∃ rendered : Run, run.output.Wrote (fun _ => True) (calls.map (modelRow config year))
          rendered.output ∧ final.models = rendered.models ∧
        ∃ rows, rendered.files.Writes (fun _ => True) rows final.files ∧
          ∀ row ∈ rows, ∃ path ∈ published config final.session.registry,
            row.1 = rendered.files.placeOf (config.output.wwwDir.join ⟨path⟩) := by
  obtain ⟨rendered, _, hrender, -, hemit⟩ := steps_of_generateAll h
  rw [renderAll_eq] at hrender
  obtain ⟨htexts, hwrote⟩ := wrote_generateNodes hrender
  obtain ⟨hmodels, rows, hrows, hplaces⟩ := writes_emit hemit
  exact ⟨Step.map_fst_calls hrender, htexts, rendered, hwrote, hmodels, rows, hrows, hplaces⟩

/-- The file of a class holds the model of the last node that has its file there, if nothing else is
    published there. -/
theorem bytes?_modelPath {run rendered final : Run} {calls : List (Node × Run)}
    {rows : List (Place × ByteArray)} (hroot : run.models.root = config.output.generatedDir)
    (hwrote : run.output.Wrote (fun _ => True) (calls.map (modelRow config year)) rendered.output)
    (hrows : rendered.files.Writes (fun _ => True) rows final.files) {call : Node × Run}
    (hcall : call ∈ calls)
    (unspoiled : ∀ row ∈ rows,
      row.1 ≠ final.files.placeOf (modelPath config call.1.classname)) :
    ∃ last, lastInFile? config final.files calls call.1.classname = some last ∧ last ∈ calls ∧
      final.files.bytes? (modelPath config call.1.classname) =
        some (modelRow config year last).2 := by
  have hall := hwrote.files.trans hrows
  have hplace : ∀ classname, final.files.placeOf (modelPath config classname) =
      run.output.placeOf (modelFile classname) := fun classname => by
    rw [hall.placeOf, modelPath, ← hroot]
    rfl
  obtain ⟨hlocate, hfile⟩ := hwrote.found _ (List.mem_map_of_mem hcall)
  have hbytes := hall.bytes?_of_locate? (hrows.locate? hlocate) hfile
  have hnone : rows.reverse.lookup (run.output.placeOf (modelFile call.1.classname)) = none := by
    refine List.lookup_eq_none_iff.2 fun row hrow => bne_iff_ne.2 ?_
    rw [← hplace]
    exact (unspoiled row (List.mem_reverse.1 hrow)).symm
  have hfind : (run.output.rows (calls.map (modelRow config year))).reverse.lookup
      (run.output.placeOf (modelFile call.1.classname)) =
        (lastInFile? config final.files calls call.1.classname).map
          fun last => (modelRow config year last).2 := by
    have hpairs : run.output.rows (calls.map (modelRow config year)) = calls.map fun call =>
        (run.output.placeOf (modelFile call.1.classname), (modelRow config year call).2) := by
      rw [Output.rows, List.map_map]
      rfl
    rw [hpairs, ← List.map_reverse, lookup_map_eq_find?]
    simp only [lastInFile?, hplace]
  have hsome : (lastInFile? config final.files calls call.1.classname).isSome = true :=
    List.find?_isSome.2 ⟨call, List.mem_reverse.2 hcall, by simp⟩
  obtain ⟨last, hlast⟩ := Option.isSome_iff_exists.1 hsome
  refine ⟨last, hlast, List.mem_reverse.1 (List.mem_of_find?_eq_some hlast), ?_⟩
  have hpath : modelPath config call.1.classname =
      run.output.artifacts.root.join ⟨modelFile call.1.classname⟩ := by
    rw [modelPath, ← hroot]
    rfl
  rw [hpath]
  refine hbytes.trans ?_
  have hfst : (modelRow config year call).1 = modelFile call.1.classname := rfl
  rw [List.reverse_append, List.lookup_append, hfst, hnone, hfind, hlast]
  rfl

/-- After a run with success every node was written, and the file of its class holds its model
    exactly if the last node with the same file has the same model. As many models are recorded as
    there are nodes exactly if no two nodes have one file. -/
theorem holdsModel_iff_last {files : FileTree} {count : Nat} {loaded final : Run}
    {summary : GenerationSummary} (hload : load config (start config files) = .ok count loaded)
    (h : generateAll config year loaded = .ok summary final) :
    let calls := renderings config year loaded
    calls.map Prod.fst = loaded.graph.nodes ∧
      (∀ call ∈ calls, Unspoiled config final call.1.classname →
        (HoldsModel config year final.files call ↔
          (lastInFile? config final.files calls call.1.classname).bind (modelText? config year) =
            modelText? config year call)) ∧
      (final.models.written.length = loaded.graph.size ↔
        (loaded.graph.nodes.map fun node =>
          (⟨modelFile node.classname⟩ : Path).components).Nodup) := by
  intro calls
  obtain ⟨hnodes, htexts, rendered, hwrote, hmodels, rows, hrows, hplaces⟩ := writes_generateAll h
  obtain ⟨hfresh, -⟩ := models_of_load hload
  refine ⟨hnodes, fun call hcall unspoiled => ?_, ?_⟩
  · have hroot : loaded.models.root = config.output.generatedDir := by rw [hfresh]; rfl
    have hclear : ∀ row ∈ rows,
        row.1 ≠ final.files.placeOf (modelPath config call.1.classname) := by
      intro row hrow
      obtain ⟨path, hpath, hplace⟩ := hplaces row hrow
      rw [hplace, ← hrows.placeOf]
      exact unspoiled path hpath
    obtain ⟨last, hlast, hmem, hbytes⟩ := bytes?_modelPath hroot hwrote hrows hcall hclear
    obtain ⟨text, htext⟩ := Option.isSome_iff_exists.1 (htexts call hcall)
    obtain ⟨lastText, hlastText⟩ := Option.isSome_iff_exists.1 (htexts last hmem)
    rw [modelRow_eq hlastText] at hbytes
    rw [hlast, Option.bind_some, hlastText, htext]
    unfold HoldsModel
    rw [hbytes, htext]
    constructor
    · rintro ⟨found, hfound, hsame⟩
      rw [hfound, String.toByteArray_inj.1 (Option.some.inj hsame)]
    · intro hsame
      exact ⟨text, rfl, by rw [Option.some.inj hsame]⟩
  · have hempty : loaded.output.artifacts.written = [] := by
      change loaded.models.written = []
      rw [hfresh]
      rfl
    have hrecords := hwrote.records
    rw [hempty] at hrecords
    have htargets : Artifacts.targets (calls.map (modelRow config year)) =
        loaded.graph.nodes.map fun node => (⟨modelFile node.classname⟩ : Path).components := by
      rw [← hnodes, Artifacts.targets, List.map_map, List.map_map]
      rfl
    have hsize : (calls.map (modelRow config year)).length = loaded.graph.size := by
      rw [List.length_map, Graph.size, ← hnodes, List.length_map]
    rw [hmodels, ← htargets, ← hsize, ← Artifacts.length_recordAll_eq_iff, ← hrecords]
    rfl

/-- A node below another one of the same class. -/
def sameClassFiles : FileTree :=
  ⟨[(["redfish"], .directory), (["redfish", "A"], .directory),
    (["redfish", "A", "A.yaml"], .file "A: \x7bSchema: A\x7d".toUTF8),
    (["redfish", "A.yaml"], .file "A: \x7bSchema: A\x7d".toUTF8),
    (["s"], .directory), (["s", "csdl"], .directory), (["s", "csdl", "A_v1.xml"], .file .empty),
    (["s", "json-schema"], .directory),
    (["s", "json-schema", "A.json"], .file ("\x7b\"definitions\":\x7b\"A\":\x7b" ++
      "\"description\":\"\",\"longDescription\":\"\"," ++
      "\"uris\":[\"/redfish/A\",\"/redfish/A/A\"]\x7d\x7d\x7d").toUTF8),
    (["s", "openapi"], .directory), (["s", "openapi", "A.yaml"], .file .empty)], []⟩

theorem load_sameClassFiles :
    load bareConfig (start bareConfig sameClassFiles) =
      loadStored bareConfig ["redfish"] (start bareConfig sameClassFiles) :=
  load_of_inOrder (by decide +kernel) (by decide +kernel) (by decide +kernel)

/-- Whether two nodes have one class, in whose file the model of the first one is lost. -/
def Overwritten (config : Config) (year : Nat) (final : Run) (first second : Node × Run) : Prop :=
  first.1.classname = second.1.classname ∧ Unspoiled config final second.1.classname ∧
    modelText? config year first ≠ modelText? config year second ∧
    final.files.bytes? (modelPath config first.1.classname) ≠
      (modelText? config year first).map String.toUTF8

instance (config : Config) (year : Nat) (final : Run) (first second : Node × Run) :
    Decidable (Overwritten config year final first second) :=
  inferInstanceAs (Decidable (_ ∧ _))

/-- The run over these files: the file of the class holds the model of the second node. -/
theorem sameClass_run :
    ∃ (count : Nat) (loaded final : Run) (summary : GenerationSummary) (first second : Node × Run),
      load bareConfig (start bareConfig sameClassFiles) = .ok count loaded ∧
      generateAll bareConfig 0 loaded = .ok summary final ∧
      renderings bareConfig 0 loaded = [first, second] ∧
      first.1.classname = second.1.classname ∧ Unspoiled bareConfig final second.1.classname ∧
      modelText? bareConfig 0 first ≠ modelText? bareConfig 0 second ∧
      final.files.bytes? (modelPath bareConfig first.1.classname) ≠
        (modelText? bareConfig 0 first).map String.toUTF8 := by
  obtain ⟨count, loaded, hload, summary, final, hgenerate, hlength, hpair⟩ : ∃ count loaded,
      loadStored bareConfig ["redfish"] (start bareConfig sameClassFiles) = .ok count loaded ∧
        ∃ summary final, generateAll bareConfig 0 loaded = .ok summary final ∧
          (renderings bareConfig 0 loaded).length = 2 ∧
          (renderings bareConfig 0 loaded).Pairwise (Overwritten bareConfig 0 final) := by
    decide +kernel
  rw [← load_sameClassFiles] at hload
  obtain ⟨first, second, hcalls⟩ := List.length_eq_two.1 hlength
  rw [hcalls, List.pairwise_pair] at hpair
  exact ⟨count, loaded, final, summary, first, second, hload, hgenerate, hcalls, hpair⟩

theorem holdsModel_sameClass :
    ∃ (count : Nat) (loaded final : Run) (summary : GenerationSummary) (first second : Node × Run),
      load bareConfig (start bareConfig sameClassFiles) = .ok count loaded ∧
      generateAll bareConfig 0 loaded = .ok summary final ∧
      renderings bareConfig 0 loaded = [first, second] ∧
      ¬ HoldsModel bareConfig 0 final.files first ∧ HoldsModel bareConfig 0 final.files second ∧
      final.models.written.length ≠ loaded.graph.size := by
  obtain ⟨count, loaded, final, summary, first, second, hload, hgenerate, hcalls, hclass, hclear,
    htexts, -⟩ := sameClass_run
  obtain ⟨hnodes, hholds, hcount⟩ := holdsModel_iff_last hload hgenerate
  rw [hcalls] at hnodes hholds
  have hlast : lastInFile? bareConfig final.files [first, second] second.1.classname =
      some second := by simp [lastInFile?]
  have held := hholds first (by simp) (hclass ▸ hclear)
  have held' := hholds second (by simp) hclear
  rw [hclass, hlast, Option.bind_some] at held
  rw [hlast, Option.bind_some] at held'
  refine ⟨count, loaded, final, summary, first, second, hload, hgenerate, hcalls,
    fun h => htexts (held.1 h).symm, held'.2 rfl, fun h => ?_⟩
  have hdistinct := hcount.1 h
  rw [← hnodes] at hdistinct
  simp [hclass] at hdistinct

/-- A model is lost where two nodes have one class: not every node has its model in the file of its
    class after a run with success. -/
theorem not_holdsModel_always :
    ¬ ∀ (config : Config) (year count : Nat) (files : FileTree) (loaded final : Run)
      (summary : GenerationSummary), load config (start config files) = .ok count loaded →
      generateAll config year loaded = .ok summary final →
      ∀ call ∈ renderings config year loaded, HoldsModel config year final.files call := by
  intro holds
  obtain ⟨count, loaded, final, summary, first, second, hload, hgenerate, hcalls, -, -, -, hbytes⟩ :=
    sameClass_run
  have hmem : first ∈ renderings bareConfig 0 loaded := by
    rw [hcalls]
    exact List.mem_cons_self
  obtain ⟨text, htext, hfile⟩ := holds bareConfig 0 count sameClassFiles loaded final summary
    hload hgenerate first hmem
  exact hbytes (by rw [hfile, htext, Option.map_some])

end ResourceModel.Run

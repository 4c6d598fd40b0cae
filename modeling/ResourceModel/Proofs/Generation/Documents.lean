import ResourceModel.Proofs.Generation
import ResourceModel.Proofs.Generation.Loading
import ResourceModel.Proofs.Store

set_option autoImplicit false

/-! # The documents of the nodes

A node is built on the document that stands in the files for its schema and version. Nothing that is
read later changes what is kept of it. -/

namespace ResourceModel

open Step (Keeps KeepsFailing)

/-! ## One node -/

/-- Whether the schema document of a node stands in the files, under the stem of its schema in the
    version that it declares. -/
def Node.Reads (assets : Assets) (node : Node) : Prop :=
  assets.document? node.standard (stemOf node.schema node.version) = .ok (some node.schemaDocument)

/-- An outline holds what the declaration says, part by part. -/
theorem Node.outline_eq_ok {strict : Bool} {declaration : NodeDeclaration} {outline : Outline}
    (h : Node.outline strict declaration = .ok outline) :
    declaration.body.text? "Schema" = some outline.schema ∧
      standardOf declaration.body = .ok outline.standard ∧
      versionOf declaration.body declaration.key = .ok outline.version ∧
      parameterOf declaration = .ok outline.parameter ∧
      Children.parse declaration.getAction? declaration.key strict = .ok outline.children := by
  unfold Node.outline at h
  simp only at h
  split at h
  case h_2 =>
    obtain ⟨_, hmissing, -⟩ := Step.except_bind_eq_ok.1 h
    cases hmissing
  case h_1 schema hschema =>
    obtain ⟨_, hpure, hstandards⟩ := Step.except_bind_eq_ok.1 h
    cases hpure
    obtain ⟨standard, hstandard, hversions⟩ := Step.except_bind_eq_ok.1 hstandards
    obtain ⟨version, hversion, hparameters⟩ := Step.except_bind_eq_ok.1 hversions
    obtain ⟨parameter, hparameter, hlists⟩ := Step.except_bind_eq_ok.1 hparameters
    obtain ⟨children, hchildren, hanswer⟩ := Step.except_bind_eq_ok.1 hlists
    cases hanswer
    exact ⟨hschema, hstandard, hversion, hparameter, hchildren⟩

/-- What a node is built of: the outline of its declaration, and the documents that are read for
    it. -/
theorem Node.build_eq_ok {assets : Assets} {anchor : Anchor} {declaration : NodeDeclaration}
    {store final : Store} {node : Node}
    (h : Node.build assets anchor declaration store = .ok node final) :
    ∃ outline openapi spec versioned namespaces first second,
      Node.outline assets.config.limits.strictReferences declaration = .ok outline ∧
      Store.require assets outline.standard outline.schema store = .ok spec first ∧
      Node.requireVersioned assets outline first = .ok versioned second ∧
      final = second.bind outline.schema spec ∧
      node = {
        declaration, openapi, spec, versioned, namespaces
        key := declaration.key
        name := declaration.body.text? "Name"
        leading := leadingOf declaration.body
        segment := segmentOf declaration outline.parameter
        id := idBelow anchor.id (leadingOf declaration.body)
          (segmentOf declaration outline.parameter)
        standard := outline.standard
        schema := outline.schema
        version := outline.version
        parent := anchor.parent
        parameter := outline.parameter
        children := outline.children } := by
  obtain ⟨outline, _, hdeclared, hreads⟩ := Step.bind_eq_ok.1 h
  obtain ⟨houtline, rfl⟩ := Step.ofExcept_eq_ok.1 hdeclared
  obtain ⟨openapi, _, hopenapi, hspecs⟩ := Step.bind_eq_ok.1 hreads
  obtain ⟨-, rfl⟩ := Step.ofExcept_eq_ok.1 hopenapi
  obtain ⟨spec, first, hspec, hversions⟩ := Step.bind_eq_ok.1 hspecs
  obtain ⟨versioned, second, hversioned, hdeclares⟩ := Step.bind_eq_ok.1 hversions
  obtain ⟨namespaces, _, hnamespaces, hbinds⟩ := Step.bind_eq_ok.1 hdeclares
  obtain ⟨-, rfl⟩ := Step.ofExcept_eq_ok.1 hnamespaces
  obtain ⟨_, _, hbind, hanswer⟩ := Step.bind_eq_ok.1 hbinds
  cases hbind
  obtain ⟨hnode, rfl⟩ := Step.pure_eq_ok.1 hanswer
  exact ⟨outline, openapi, spec, versioned, namespaces, first, _, houtline, hspec, hversioned, rfl,
    hnode⟩

section Keeping

variable {assets : Assets} {holds : Store → Prop}
  (load : ∀ standard stem, Keeps holds (Store.load assets standard stem))

include load

theorem Node.keeps_requireVersioned (outline : Outline) :
    Keeps holds (Node.requireVersioned assets outline) := by
  unfold Node.requireVersioned
  split
  · exact (Store.keeps_require load _ _).bind fun _ => .pure _
  · exact .pure _

/-- Where a node cannot be built, documents have been read for it and nothing has been bound. -/
theorem Node.keepsFailing_build (anchor : Anchor) (declaration : NodeDeclaration) :
    KeepsFailing holds (Node.build assets anchor declaration) := by
  unfold Node.build
  refine .bind (.ofExcept _) fun outline => ?_
  refine .bind (.ofExcept _) fun _ => ?_
  refine .bind (Store.keeps_require load _ _) fun _ => ?_
  refine .bind (Node.keeps_requireVersioned load outline) fun _ => ?_
  refine .bind (.ofExcept _) fun _ => ?_
  -- from here on nothing fails
  intro store error final _ h
  cases h

end Keeping

theorem Node.keeps_faithful_build {assets : Assets} (anchor : Anchor)
    (declaration : NodeDeclaration) :
    Keeps (Store.Faithful assets) (Node.build assets anchor declaration) := by
  unfold Node.build
  exact (Keeps.ofExcept _).bind fun outline => (Keeps.ofExcept _).bind fun _ =>
    (Store.keeps_require Store.keeps_faithful_load _ _).bind fun _ =>
      (Node.keeps_requireVersioned Store.keeps_faithful_load outline).bind fun _ =>
        (Keeps.ofExcept _).bind fun _ =>
          (Keeps.modify fun _ h => ⟨h.documents, h.extensions⟩).bind fun _ => .pure _

theorem Node.reads_of_build {assets : Assets} {anchor : Anchor} {declaration : NodeDeclaration}
    {store final : Store} {node : Node} (faithful : store.Faithful assets)
    (h : Node.build assets anchor declaration store = .ok node final) : node.Reads assets := by
  obtain ⟨outline, openapi, spec, versioned, namespaces, first, second, -, hspec, hversioned, -,
    hnode⟩ := build_eq_ok h
  have hfirst : first.Faithful assets :=
    (Store.keeps_require Store.keeps_faithful_load _ _).of_ok hspec faithful
  unfold Reads schemaDocument
  rw [hnode]
  simp only
  unfold requireVersioned at hversioned
  cases houtline : outline.version with
  | none =>
    rw [houtline] at hversioned
    obtain ⟨hnone, -⟩ := Step.pure_eq_ok.1 hversioned
    rw [hnone]
    exact faithful.document?_of_require hspec
  | some version =>
    rw [houtline] at hversioned
    obtain ⟨document, changed, hrequire, hanswer⟩ := Step.bind_eq_ok.1 hversioned
    obtain ⟨hsome, -⟩ := Step.pure_eq_ok.1 hanswer
    rw [hsome]
    exact hfirst.document?_of_require hrequire

/-- The text of the document on which a node was built. -/
theorem Node.Reads.text {assets : Assets} {node : Node} (h : node.Reads assets) :
    ∃ path content text,
      assets.jsonPath? node.standard (stemOf node.schema node.version) = some path ∧
      assets.files.bytes? path = some content ∧ String.fromUTF8? content = some text ∧
      Json.parse text = some node.schemaDocument := by
  unfold Reads Assets.document? at h
  cases hpath : assets.jsonPath? node.standard (stemOf node.schema node.version) with
  | none => simp [hpath] at h
  | some path =>
    rw [hpath] at h
    unfold Assets.readJson FileTree.text? at h
    cases hbytes : assets.files.bytes? path with
    | none => simp [hbytes, Except.map] at h
    | some content =>
      cases htext : String.fromUTF8? content with
      | none => simp [hbytes, htext, Except.map] at h
      | some text =>
        cases hparse : Json.parse text with
        | none => simp [hbytes, htext, hparse, Except.map] at h
        | some document =>
          simp only [hbytes, htext, hparse, Option.bind_some, Except.map, Except.ok.injEq,
            Option.some.injEq] at h
          exact ⟨path, content, text, rfl, hbytes, htext, by rw [hparse, h]⟩

/-! ## Every node -/

namespace Run

theorem reads_of_load {config : Config} {files : FileTree} {count : Nat} {loaded : Run}
    (h : load config (start config files) = .ok count loaded) :
    ∀ node ∈ loaded.graph.nodes, node.Reads ⟨files, config⟩ := by
  let sound : Run → Prop := fun run => run.files = files ∧
    run.session.store.Faithful ⟨files, config⟩ ∧
    ∀ node ∈ run.graph.nodes, node.Reads ⟨files, config⟩
  have kept : KeptByLoading config sound := by
    constructor
    · intro anchor declaration
      have built : ∀ assets, Keeps (fun session : Session => session.store.Faithful assets)
          (Session.reading (Node.build assets anchor declaration)) := fun _ =>
        (Node.keeps_faithful_build anchor declaration).onPart (fun _ h => h) fun _ _ _ h => h
      refine keeps_inSession built ?_ ?_
      · rintro run ⟨rfl, faithful, -⟩
        exact faithful
      · rintro run session ⟨rfl, -, reads⟩ faithful
        exact ⟨rfl, faithful, reads⟩
    · rintro anchor declaration before node run ⟨rfl, faithful, reads⟩ hbuild ⟨hfiles, kept, hreads⟩
      obtain ⟨session, hsession, rfl⟩ := inSession_eq_ok.1 hbuild
      obtain ⟨store, hnode, rfl⟩ := Session.reading_eq_ok.1 hsession
      refine ⟨hfiles, kept, fun other hother => ?_⟩
      rcases List.mem_append.1 hother with hother | hother
      · exact hreads other hother
      · obtain rfl := List.mem_singleton.1 hother
        exact Node.reads_of_build faithful hnode
  exact (kept.keeps_load.of_ok h ⟨rfl, Store.faithful_empty, by simp [start, Graph.empty]⟩).2.2

end Run

end ResourceModel

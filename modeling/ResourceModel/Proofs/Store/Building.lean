import ResourceModel.Proofs.Registry.Invariant
import ResourceModel.Proofs.Store.Binding

set_option autoImplicit false

/-! # Building a node

A node is built in one step of the run: either nothing is changed that a later reading could show,
or the document of its schema is bound and nothing else is. The documents that are read on the way
are kept in both cases. As long as the schema documents stay as they are in the files, nobody can
tell. -/

namespace ResourceModel

open Step (Keeps)

namespace Store

/-! ## Requests -/

/-- What is asked of the documents of a run, with the files as they are then. -/
structure Request where
  assets : Assets
  call : Call

/-- The answers to requests, one after the other. -/
def answers : List Request → Store → List (Except Error (Option Json))
  | [], _ => []
  | request :: rest, store =>
    (request.call.run request.assets).answer store ::
      answers rest ((request.call.run request.assets).after store)

/-- Whether a call follows no reference but to a document with a stem of the given ones. -/
def Call.NamesOnly (stems : String → Prop) : Call → Prop
  | .read (.target reference) => ∀ stem, reference.stem? = some stem → stems stem
  | _ => True

theorem Call.namesOnly_all (call : Call) : call.NamesOnly fun _ => True := by
  cases call with
  | bind id document => trivial
  | read reading =>
    cases reading with
    | target reference => exact fun _ _ => trivial
    | _ => trivial

/-! ## Stores that answer alike -/

/-- Whether another store finds the same: the same schema documents, the same in the extension area,
    and the same documents under the ids that are looked up. -/
structure Alike (assets : Assets) (ids : String → Prop) (store other : Store) : Prop where
  documents : other.document? assets = store.document? assets
  extensions : other.extensions = store.extensions
  bound : ∀ id, ids id → Table.get? other.bound id = Table.get? store.bound id

variable {assets : Assets} {ids : String → Prop} {store other : Store}

namespace Alike

theorem refl (store : Store) : Alike assets ids store store :=
  ⟨rfl, rfl, fun _ _ => rfl⟩

theorem symm (h : Alike assets ids store other) : Alike assets ids other store :=
  ⟨h.documents.symm, h.extensions.symm, fun id hid => (h.bound id hid).symm⟩

theorem trans {third : Store} (h : Alike assets ids store other)
    (h' : Alike assets ids other third) : Alike assets ids store third :=
  ⟨h'.documents.trans h.documents, h'.extensions.trans h.extensions,
    fun id hid => (h'.bound id hid).trans (h.bound id hid)⟩

theorem bind (h : Alike assets ids store other) (id : String) (document : Json) :
    Alike assets ids (store.bind id document) (other.bind id document) := by
  refine ⟨h.documents, h.extensions, fun wanted hwanted => ?_⟩
  show Table.get? (Table.put other.bound id document) wanted =
    Table.get? (Table.put store.bound id document) wanted
  rw [Table.get?_put, Table.get?_put, h.bound wanted hwanted]

/-- Binding a document makes no difference to whoever does not look up its id. -/
theorem bind_other {id : String} (unseen : ¬ ids id) (document : Json) :
    Alike assets ids store (store.bind id document) := by
  refine ⟨rfl, rfl, fun wanted hwanted => ?_⟩
  show Table.get? (Table.put store.bound id document) wanted = Table.get? store.bound wanted
  rw [Table.get?_put, if_neg]
  rintro rfl
  exact unseen hwanted

end Alike

theorem document?_congr {later : Assets} (same : later.document? = assets.document?)
    (store : Store) : store.document? later = store.document? assets := by
  funext standard stem
  unfold document?
  rw [same]

theorem Alike.congr {later : Assets} (same : later.document? = assets.document?)
    (h : Alike assets ids store other) : Alike later ids store other := by
  refine ⟨?_, h.extensions, h.bound⟩
  rw [document?_congr same, document?_congr same, h.documents]

theorem keeps_alike_load (ids : String → Prop) (store : Store) (standard : Standard)
    (stem : String) : Keeps (Alike assets ids store) (load assets standard stem) := by
  let find : Standard × String → Except Error (Option Json) := fun key =>
    assets.document? key.1 key.2
  intro later h
  have kept := keeps_overlay_cached find (standard, stem) (overlay later.documents find)
    later.documents rfl
  rw [load, Step.after_onPart]
  refine ⟨?_, h.extensions, h.bound⟩
  rw [← h.documents]
  funext standard' stem'
  exact congrFun kept (standard', stem')

/-- A step that makes no difference makes none between stores that are alike. -/
theorem Alike.after {α : Type} {step : Step Store α}
    (keeps : ∀ store, Keeps (Alike assets ids store) step) (h : Alike assets ids store other) :
    Alike assets ids (step.after store) (step.after other) :=
  (keeps store store (.refl store)).symm.trans (h.trans (keeps other other (.refl other)))

theorem Alike.answer_target {reference : Reference} (h : Alike assets ids store other)
    (named : ∀ stem, reference.stem? = some stem → ids stem) :
    (target assets reference).answer other = (target assets reference).answer store := by
  rw [Store.answer_target, Store.answer_target]
  unfold named?
  cases hstem : reference.stem? with
  | none => rfl
  | some stem => simp only [h.bound stem (named stem hstem), h.documents]

theorem Alike.loadExtension (h : Alike assets ids store other) (name tag : String) :
    (loadExtension assets name tag).answer other = (loadExtension assets name tag).answer store ∧
      Alike assets ids ((Store.loadExtension assets name tag).after store)
        ((Store.loadExtension assets name tag).after other) := by
  unfold Store.loadExtension
  rw [Step.answer_onPart, Step.answer_onPart, Step.after_onPart, Step.after_onPart, h.extensions]
  exact ⟨rfl, h.documents, rfl, h.bound⟩

/-- A call is answered alike by stores that are alike, and leaves them alike. -/
theorem Alike.call {call : Call} (h : Alike assets ids store other) (names : call.NamesOnly ids) :
    (call.run assets).answer other = (call.run assets).answer store ∧
      Alike assets ids ((call.run assets).after store) ((call.run assets).after other) := by
  cases call with
  | bind id document => exact ⟨rfl, h.bind id document⟩
  | read reading =>
    cases reading with
    | load standard stem =>
      refine ⟨?_, h.after fun store => keeps_alike_load ids store standard stem⟩
      show (load assets standard stem).answer other = (load assets standard stem).answer store
      rw [answer_load, answer_load, h.documents]
    | require standard stem =>
      refine ⟨?_, h.after fun store =>
        (keeps_require (keeps_alike_load ids store) standard stem).bind fun _ => .pure _⟩
      show (require assets standard stem >>= fun document => pure (some document)).answer other =
        (require assets standard stem >>= fun document => pure (some document)).answer store
      rw [Step.answer_map, Step.answer_map, answer_require, answer_require, h.documents]
    | loadExtension name tag => exact h.loadExtension name tag
    | target reference =>
      exact ⟨h.answer_target names, h.after fun store =>
        keeps_target (keeps_alike_load ids store) reference⟩

/-- Stores that are alike cannot be told apart by requests, as long as the schema documents stay as
    they are in the files. -/
theorem Alike.answers_eq (h : Alike assets ids store other) {requests : List Request}
    (names : ∀ request ∈ requests,
      request.assets.document? = assets.document? ∧ request.call.NamesOnly ids) :
    answers requests other = answers requests store := by
  induction requests generalizing store other with
  | nil => rfl
  | cons request rest ih =>
    rw [List.forall_mem_cons] at names
    obtain ⟨⟨same, hcall⟩, hrest⟩ := names
    obtain ⟨hanswer, hafter⟩ := (h.congr same).call hcall
    rw [answers, answers, hanswer, ih (hafter.congr same.symm) hrest]

end Store

namespace Node

/-! ## What a build leaves -/

variable {assets : Assets} {anchor : Anchor} {declaration : NodeDeclaration} {store final : Store}

theorem alike_of_build_error {error : Error}
    (h : Node.build assets anchor declaration store = .error error final) :
    final.bound = store.bound ∧ ∀ ids, store.Alike assets ids final :=
  ⟨keepsFailing_build (Store.keeps_bound_load store.bound) anchor declaration store error final rfl
      h,
    fun ids => keepsFailing_build (Store.keeps_alike_load ids store) anchor declaration store error
      final (.refl store) h⟩

/-- A build that succeeds leaves what binding the node's document would have left. -/
theorem alike_of_build_ok {node : Node}
    (h : Node.build assets anchor declaration store = .ok node final) :
    final.bound = (store.bind node.schema node.spec).bound ∧
      ∀ ids, (store.bind node.schema node.spec).Alike assets ids final := by
  obtain ⟨outline, openapi, spec, versioned, namespaces, first, second, -, hspec, hversioned,
    rfl, rfl⟩ := Node.build_eq_ok h
  have through : ∀ {holds : Store → Prop},
      (∀ standard stem, Keeps holds (Store.load assets standard stem)) → holds store →
        holds second := fun load before =>
    (keeps_requireVersioned load outline).of_ok hversioned
      ((Store.keeps_require load _ _).of_ok hspec before)
  refine ⟨?_, fun ids => ?_⟩
  · show Table.put second.bound _ _ = Table.put store.bound _ _
    rw [through (Store.keeps_bound_load store.bound) rfl]
  · exact (through (Store.keeps_alike_load ids store) (.refl store)).bind _ _

/-- The schema and the standard of a node are those of its declaration. -/
theorem declared_of_build {node : Node}
    (h : Node.build assets anchor declaration store = .ok node final) :
    declaration.body.text? "Schema" = some node.schema ∧
      standardOf declaration.body = .ok node.standard := by
  obtain ⟨outline, openapi, spec, versioned, namespaces, first, second, houtline, -, -, -, rfl⟩ :=
    Node.build_eq_ok h
  obtain ⟨hschema, hstandard, -⟩ := Node.outline_eq_ok houtline
  exact ⟨hschema, hstandard⟩

/-- The document that a node binds is the one that reading its schema answered before. -/
theorem answer_load_of_build {node : Node}
    (h : Node.build assets anchor declaration store = .ok node final) :
    (Store.load assets node.standard node.schema).answer store = .ok (some node.spec) := by
  obtain ⟨outline, openapi, spec, versioned, namespaces, first, second, -, hspec, -, -, rfl⟩ :=
    Node.build_eq_ok h
  obtain ⟨found, middle, hload, hfound⟩ := Step.bind_eq_ok.1 hspec
  obtain ⟨rfl, -⟩ := Step.require_eq_ok.1 hfound
  exact Step.answer_of_ok hload

/-- A node that cannot be built changes neither the registry nor what is bound, and makes no
    difference to what is answered later. A node that is built changes of these only what is bound
    to its schema id, to the document that is read for it in its own standard: later requests are
    answered as if only this had been bound, and those that do not follow a reference to the schema
    as if nothing had happened. -/
theorem build_atomic (assets : Assets) (anchor : Anchor) (declaration : NodeDeclaration)
    (session : Session) :
    (∀ error final,
      Session.reading (Node.build assets anchor declaration) session = .error error final →
      final.registry = session.registry ∧ final.store.bound = session.store.bound ∧
      ∀ requests : List Store.Request,
        (∀ request ∈ requests, request.assets.document? = assets.document?) →
        Store.answers requests final.store = Store.answers requests session.store) ∧
    ∀ node final,
      Session.reading (Node.build assets anchor declaration) session = .ok node final →
      final.registry = session.registry ∧
      (declaration.body.text? "Schema" = some node.schema ∧
        standardOf declaration.body = .ok node.standard ∧
        (Store.load assets node.standard node.schema).answer session.store = .ok (some node.spec) ∧
        (session.store.Faithful assets →
          assets.document? node.standard node.schema = .ok (some node.spec))) ∧
      (∀ id, Table.get? final.store.bound id =
        if id = node.schema then some node.spec else Table.get? session.store.bound id) ∧
      ∀ requests : List Store.Request,
        (∀ request ∈ requests, request.assets.document? = assets.document?) →
        Store.answers requests final.store =
          Store.answers requests (session.store.bind node.schema node.spec) ∧
        ((∀ request ∈ requests, request.call.NamesOnly (· ≠ node.schema)) →
          Store.answers requests final.store = Store.answers requests session.store) := by
  refine ⟨fun error final h => ?_, fun node final h => ?_⟩
  · obtain ⟨left, hbuild, rfl⟩ := Step.onPart_eq_error.1 h
    obtain ⟨hbound, halike⟩ := alike_of_build_error hbuild
    refine ⟨rfl, hbound, fun requests same => ?_⟩
    exact (halike fun _ => True).answers_eq fun request hrequest =>
      ⟨same request hrequest, request.call.namesOnly_all⟩
  · obtain ⟨left, hbuild, rfl⟩ := Step.onPart_eq_ok.1 h
    obtain ⟨hbound, halike⟩ := alike_of_build_ok hbuild
    obtain ⟨hschema, hstandard⟩ := declared_of_build hbuild
    refine ⟨rfl, ⟨hschema, hstandard, answer_load_of_build hbuild,
      fun faithful => (Store.bound_of_build faithful hbuild).2⟩, fun id => ?_,
      fun requests same => ⟨?_, fun names => ?_⟩⟩
    · show Table.get? left.bound id = _
      rw [hbound]
      exact Table.get?_put session.store.bound node.schema id node.spec
    · exact (halike fun _ => True).answers_eq fun request hrequest =>
        ⟨same request hrequest, request.call.namesOnly_all⟩
    · have alike : session.store.Alike assets (· ≠ node.schema) left :=
        (Store.Alike.bind_other (not_not_intro rfl) node.spec).trans (halike _)
      exact alike.answers_eq fun request hrequest =>
        ⟨same request hrequest, names request hrequest⟩

/-- What has been read for a node that cannot be built is kept. -/
example :
    let assets : Assets := {
      config := { assets := { redfishBundle := ⟨"s"⟩ } }
      files :=
        ⟨[(["s"], .directory), (["s", "json-schema"], .directory),
          (["s", "json-schema", "A.json"], .file "\x7b\x7d".toUTF8), (["s", "openapi"], .directory),
          (["s", "openapi", "A.yaml"], .file .empty)], []⟩ }
    let declaration : NodeDeclaration := ⟨"A", false, .object [("Schema", .string "A")]⟩
    ∃ error final, Node.build assets ⟨none, none⟩ declaration .empty = .error error final ∧
      final.documents.length = 1 ∧ final.bound.length = 0 := by
  decide +kernel

end Node

end ResourceModel

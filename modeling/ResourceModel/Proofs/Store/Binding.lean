import ResourceModel.Proofs.Generation.Documents
import ResourceModel.Proofs.Store.Caching
import ResourceModel.Proofs.Table

set_option autoImplicit false

/-! # Bound documents and standards

A node binds the document of its schema to its schema id alone, whatever its standard is, while the
bundles are read by standard and stem. So a reference leads into the standard of the node that was
built last for its stem, and into its own one only where there is no such node. -/

namespace ResourceModel.Store

open Step (Keeps)

variable {assets : Assets}

/-! ## Documents that only nodes bind -/

/-- The documents of a run that reads documents and builds nodes, with the nodes that have been
    built, in their order. -/
inductive Built (assets : Assets) : List Node → Store → Prop where
  | empty : Built assets [] empty
  | read {nodes : List Node} {store : Store} (before : Built assets nodes store)
      (reading : Reading) : Built assets nodes ((reading.run assets).after store)
  | built {nodes : List Node} {store final : Store} {anchor : Anchor}
      {declaration : NodeDeclaration} {node : Node} (before : Built assets nodes store)
      (h : Node.build assets anchor declaration store = .ok node final) :
      Built assets (nodes ++ [node]) final
  | failed {nodes : List Node} {store final : Store} {anchor : Anchor}
      {declaration : NodeDeclaration} {error : Error} (before : Built assets nodes store)
      (h : Node.build assets anchor declaration store = .error error final) :
      Built assets nodes final

/-- The last of some nodes that has a schema. -/
def lastOf? (nodes : List Node) (schema : String) : Option Node :=
  nodes.reverse.find? fun node => node.schema = schema

theorem lastOf?_append (nodes : List Node) (node : Node) (schema : String) :
    lastOf? (nodes ++ [node]) schema =
      if node.schema = schema then some node else lastOf? nodes schema := by
  unfold lastOf?
  rw [List.reverse_append, List.reverse_singleton, List.singleton_append, List.find?_cons]
  by_cases h : node.schema = schema
  · simp [h]
  · simp [h]

/-- The standard into which a reference with a stem leads after some nodes have been built: that of
    the last node of its schema, or else its own. -/
def standardFor (nodes : List Node) (stem : String) (own : Standard) : Standard :=
  match lastOf? nodes stem with
  | some node => node.standard
  | none => own

theorem standardFor_append (nodes : List Node) (node : Node) (stem : String) (own : Standard) :
    standardFor (nodes ++ [node]) stem own =
      if node.schema = stem then node.standard else standardFor nodes stem own := by
  unfold standardFor
  rw [lastOf?_append]
  by_cases h : node.schema = stem
  · simp [h]
  · simp [h]

/-! ## What is bound -/

theorem keeps_bound_load (bound : Table Json) (standard : Standard) (stem : String) :
    Keeps (fun store => store.bound = bound) (load assets standard stem) := by
  intro store h
  rw [load, Step.after_onPart]
  exact h

theorem keeps_bound_loadExtension (bound : Table Json) (name tag : String) :
    Keeps (fun store => store.bound = bound) (loadExtension assets name tag) := by
  intro store h
  rw [loadExtension, Step.after_onPart]
  exact h

/-- A node binds the document that stands in the files for its schema, to its schema id. -/
theorem bound_of_build {anchor : Anchor} {declaration : NodeDeclaration} {store final : Store}
    {node : Node} (faithful : store.Faithful assets)
    (h : Node.build assets anchor declaration store = .ok node final) :
    final.bound = Table.put store.bound node.schema node.spec ∧
      assets.document? node.standard node.schema = .ok (some node.spec) := by
  obtain ⟨outline, openapi, spec, versioned, namespaces, first, second, -, hspec, hversioned,
    rfl, rfl⟩ := Node.build_eq_ok h
  have hfirst : first.bound = store.bound :=
    (keeps_require (keeps_bound_load store.bound) _ _).of_ok hspec rfl
  have hsecond : second.bound = store.bound :=
    (Node.keeps_requireVersioned (keeps_bound_load store.bound) outline).of_ok hversioned hfirst
  refine ⟨?_, faithful.document?_of_require hspec⟩
  show Table.put second.bound outline.schema spec = Table.put store.bound outline.schema spec
  rw [hsecond]

/-- Whether the documents of a run are those that stand in the files, and those that some nodes have
    bound. -/
structure BoundBy (assets : Assets) (nodes : List Node) (store : Store) : Prop where
  faithful : store.Faithful assets
  bound : ∀ schema, Table.get? store.bound schema = (lastOf? nodes schema).map Node.spec
  specs : ∀ node ∈ nodes, assets.document? node.standard node.schema = .ok (some node.spec)

theorem BoundBy.of_bound {nodes : List Node} {store later : Store} (h : BoundBy assets nodes store)
    (faithful : later.Faithful assets) (bound : later.bound = store.bound) :
    BoundBy assets nodes later :=
  ⟨faithful, fun schema => by rw [bound, h.bound], h.specs⟩

theorem BoundBy.append {nodes : List Node} {store final : Store} (h : BoundBy assets nodes store)
    {anchor : Anchor} {declaration : NodeDeclaration} {node : Node}
    (hbuild : Node.build assets anchor declaration store = .ok node final) :
    BoundBy assets (nodes ++ [node]) final := by
  obtain ⟨hbound, hspec⟩ := bound_of_build h.faithful hbuild
  refine ⟨(Node.keeps_faithful_build anchor declaration).of_ok hbuild h.faithful,
    fun schema => ?_, fun other hother => ?_⟩
  · rw [hbound, Table.get?_put, lastOf?_append]
    by_cases hschema : schema = node.schema
    · simp [hschema]
    · rw [if_neg hschema, if_neg (Ne.symm hschema), h.bound]
  · rcases List.mem_append.1 hother with hother | hother
    · exact h.specs other hother
    · obtain rfl := List.mem_singleton.1 hother
      exact hspec

theorem Built.boundBy {nodes : List Node} {store : Store} (h : Built assets nodes store) :
    BoundBy assets nodes store := by
  induction h with
  | empty => exact ⟨faithful_empty, fun _ => rfl, by simp⟩
  | @read nodes store _ reading ih =>
    have faithful : ((reading.run assets).after store).Faithful assets :=
      reading.keeps keeps_faithful_load keeps_faithful_loadExtension store ih.faithful
    have bound : ((reading.run assets).after store).bound = store.bound :=
      reading.keeps (keeps_bound_load store.bound) (keeps_bound_loadExtension store.bound) store rfl
    exact ih.of_bound faithful bound
  | built _ hbuild ih => exact ih.append hbuild
  | @failed nodes store final anchor declaration error _ hbuild ih =>
    have faithful := Node.keeps_faithful_build anchor declaration store ih.faithful
    rw [Step.after_of_error hbuild] at faithful
    exact ih.of_bound faithful
      (Node.keepsFailing_build (keeps_bound_load store.bound) _ _ _ _ _ rfl hbuild)

/-! ## Where references lead -/

theorem Built.answer_load {nodes : List Node} {store : Store} (h : Built assets nodes store)
    (standard : Standard) (stem : String) :
    (load assets standard stem).answer store = assets.document? standard stem := by
  rw [Store.answer_load, h.boundBy.faithful.document?_eq]

/-- A reference answers the document that stands in the files for its stem, in the standard of the
    last node of this schema. -/
theorem Built.answer_target {nodes : List Node} {store : Store} (h : Built assets nodes store)
    {reference : Reference} {stem : String} (hstem : reference.stem? = some stem) :
    (target assets reference).answer store =
      assets.document? (standardFor nodes stem reference.standard) stem := by
  rw [Store.answer_target]
  unfold named? standardFor
  rw [hstem]
  simp only [h.boundBy.bound, h.boundBy.faithful.document?_eq]
  cases hlast : lastOf? nodes stem with
  | none => rfl
  | some node =>
    -- what the node has bound stands in the files of its own standard
    have hmem : node ∈ nodes := List.mem_reverse.1 (List.mem_of_find?_eq_some hlast)
    have hschema : node.schema = stem := by simpa using List.find?_some hlast
    have hspec := h.boundBy.specs node hmem
    rw [hschema] at hspec
    exact hspec.symm

/-- A reference that leads into another document answers what is read for its own standard exactly
    if the last node that was built for its stem has the same document there, which it has if its
    standard is the same. A node that is built changes what is answered for its own schema and for
    nothing else, to the document in its own standard; a node that cannot be built changes nothing. -/
theorem Built.target_eq_load_iff {nodes : List Node} {store : Store} (h : Built assets nodes store)
    {reference : Reference} {stem : String} (hstem : reference.stem? = some stem) :
    ((target assets reference).answer store =
        (load assets reference.standard stem).answer store ↔
      ∀ node, lastOf? nodes stem = some node →
        assets.document? node.standard stem = assets.document? reference.standard stem) ∧
    (∀ anchor declaration node final,
      Node.build assets anchor declaration store = .ok node final →
        (target assets reference).answer final =
          if node.schema = stem then assets.document? node.standard stem
          else (target assets reference).answer store) ∧
    ∀ anchor declaration error final,
      Node.build assets anchor declaration store = .error error final →
        (target assets reference).answer final = (target assets reference).answer store := by
  refine ⟨?_, fun anchor declaration node final hbuild => ?_,
    fun anchor declaration error final hbuild => ?_⟩
  · rw [h.answer_target hstem, h.answer_load]
    unfold standardFor
    cases lastOf? nodes stem with
    | none => simp
    | some node => simp
  · rw [(h.built hbuild).answer_target hstem, h.answer_target hstem, standardFor_append]
    exact apply_ite (fun standard => assets.document? standard stem) _ _ _
  · rw [(h.failed hbuild).answer_target hstem, h.answer_target hstem]

/-- Two bundles that both have a document of schema `A`. Only the one in Swordfish has a title. -/
def twoBundles : Assets where
  config := { assets := { redfishBundle := ⟨"s"⟩, swordfishBundle := ⟨"t"⟩ } }
  files :=
    ⟨[(["s"], .directory), (["s", "json-schema"], .directory),
      (["s", "json-schema", "A.json"], .file "\x7b\x7d".toUTF8),
      (["t"], .directory), (["t", "json-schema"], .directory),
      (["t", "json-schema", "A.json"], .file "\x7b\"title\":\"\"\x7d".toUTF8),
      (["t", "openapi"], .directory), (["t", "openapi", "A.yaml"], .file .empty),
      (["t", "csdl-schema"], .directory), (["t", "csdl-schema", "A_v1.xml"], .file .empty)], []⟩

/-- A reference into the document of `A` in Redfish. -/
def redfishReference : Reference :=
  ⟨"A.json", some "A", [], .redfish⟩

theorem stem?_redfishReference : redfishReference.stem? = some "A" := rfl

/-- The declaration of a node of schema `A` in Swordfish. -/
def swordfishDeclaration : NodeDeclaration :=
  ⟨"A", false, .object [("Schema", .string "A"), ("Standard", .string "redfish/swordfish")]⟩

theorem build_swordfishDeclaration :
    ∃ node final, Node.build twoBundles ⟨none, none⟩ swordfishDeclaration empty = .ok node final ∧
      node.schema = "A" ∧ node.standard = .swordfish := by
  decide +kernel

theorem target_of_swordfishNode :
    ∃ node final, Node.build twoBundles ⟨none, none⟩ swordfishDeclaration empty = .ok node final ∧
      (target twoBundles redfishReference).answer final = twoBundles.document? .swordfish "A" := by
  obtain ⟨node, final, h, hschema, hstandard⟩ := build_swordfishDeclaration
  have answered := (Built.empty.target_eq_load_iff stem?_redfishReference).2.1 ⟨none, none⟩
    swordfishDeclaration node final h
  rw [if_pos hschema, hstandard] at answered
  exact ⟨node, final, h, answered⟩

/-- Whether an answer is a document with a title. -/
def isTitled (answer : Except Error (Option Json)) : Bool :=
  answer.toOption.join.any fun document => document.has "title"

theorem isTitled_twoBundles : isTitled (twoBundles.document? .swordfish "A") = true ∧
    isTitled (twoBundles.document? redfishReference.standard "A") = false := by
  decide +kernel

/-- Building a node in Swordfish changes what is answered for a reference into Redfish. -/
theorem target_not_always_load :
    ¬ ∀ (assets : Assets) (nodes : List Node) (store : Store), Built assets nodes store →
      ∀ (reference : Reference) (stem : String), reference.stem? = some stem →
        (target assets reference).answer store =
          (load assets reference.standard stem).answer store := by
  intro agree
  obtain ⟨node, final, h, hschema, hstandard⟩ := build_swordfishDeclaration
  have built : Built twoBundles [node] final := Built.empty.built h
  have leads : standardFor [node] "A" redfishReference.standard = .swordfish := by
    simp [standardFor, lastOf?, hschema, hstandard]
  have same := agree twoBundles [node] final built redfishReference "A" stem?_redfishReference
  rw [built.answer_target stem?_redfishReference, built.answer_load, leads] at same
  have titles := congrArg isTitled same
  rw [isTitled_twoBundles.1, isTitled_twoBundles.2] at titles
  cases titles

end ResourceModel.Store

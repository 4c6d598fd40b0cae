import ResourceModel.Proofs.Registry.Growth
import ResourceModel.Proofs.Store
import ResourceModel.Registry.Closure
import ResourceModel.Resolution

set_option autoImplicit false

/-! # Invariants of the registry

The registry is written by whoever registers an entry or a reference, by the seeds, by the closure,
and by a chase along references. All of these are made of a few changes: `ReadingInvariant` and
`Invariant` list what has to be shown of each change, and from that a property is carried through
every operation, also through one that fails on its way. -/

namespace ResourceModel

open Step (Keeps)

variable {α : Type} {ofStore : Store → Prop} {ofRegistry : Registry → Prop}

/-! ## Properties of a session -/

namespace Session

/-- Whether the documents of a session and its registered schemas have a property each. -/
def Holds (ofStore : Store → Prop) (ofRegistry : Registry → Prop) (session : Session) : Prop :=
  ofStore session.store ∧ ofRegistry session.registry

theorem keeps_reading {step : Step Store α} (keeps : Keeps ofStore step) :
    Keeps (Holds ofStore ofRegistry) (reading step) :=
  keeps.onPart (fun _ before => before.1) fun _ _ before kept => ⟨kept, before.2⟩

theorem keeps_registering {step : Step Registry α} (keeps : Keeps ofRegistry step) :
    Keeps (Holds ofStore ofRegistry) (registering step) :=
  keeps.onPart (fun _ before => before.2) fun _ _ before kept => ⟨before.1, kept⟩

theorem reading_eq_ok {step : Step Store α} {session final : Session} {value : α} :
    reading step session = .ok value final ↔
      ∃ store, step session.store = .ok value store ∧ final = { session with store } :=
  Step.onPart_eq_ok

theorem registering_eq_ok {step : Step Registry α} {session final : Session} {value : α} :
    registering step session = .ok value final ↔
      ∃ registry, step session.registry = .ok value registry ∧
        final = { session with registry } :=
  Step.onPart_eq_ok

theorem after_registering (step : Step Registry α) (session : Session) :
    (registering step).after session =
      { session with registry := step.after session.registry } :=
  Step.after_onPart ..

end Session

/-! ## The changes -/

/-- What a property of the documents and one of the registry have to be kept by where documents are
    read and references followed: reading a document, and registering what is mentioned. -/
structure ReadingInvariant (assets : Assets) (ofStore : Store → Prop) (ofRegistry : Registry → Prop) :
    Prop where
  load : ∀ standard stem, Keeps ofStore (Store.load assets standard stem)
  loadExtension : ∀ name tag, Keeps ofStore (Store.loadExtension assets name tag)
  dependencies : ∀ registry owner uris, ofRegistry registry →
    ofRegistry (registry.addDependencies assets owner uris)

/-- What they have to be kept by besides where the registry is seeded and closed: registering the two
    kinds of seeds, and settling an entry. -/
structure Invariant (assets : Assets) (ofStore : Store → Prop) (ofRegistry : Registry → Prop) :
    Prop extends ReadingInvariant assets ofStore ofRegistry where
  seed : ∀ registry standard id, ofRegistry registry →
    ofRegistry (registry.register (.pending standard id (assets.latestVersion? standard id)))
  extension : ∀ registry store (extension : Assets.ExtensionDocument) document changed,
    extension ∈ assets.extensionDocuments → ofStore store → ofRegistry registry →
    Store.loadExtension assets extension.id extension.version.tag store =
      .ok (some document) changed →
    ofRegistry (registry.register (.ofExtension extension.id extension.version (some document)))
  settle : ∀ registry store id entry document changed, ofStore store → ofRegistry registry →
    registry.get? id = some entry →
    Registry.documentOf assets entry store = .ok document changed →
    (Scan.ofDocument assets.config.limits.nestingDepth document).complete →
    ofRegistry ((registry.addDependencies assets (some id)
      (Scan.ofDocument assets.config.limits.nestingDepth document).references).settle entry document)

/-- Whoever only reads documents and follows references lets the registry grow. -/
theorem Registry.readingInvariant_grows (assets : Assets) (old : Registry) :
    ReadingInvariant assets (fun _ => True) old.Grows where
  load _ _ _ _ := trivial
  loadExtension _ _ _ _ := trivial
  dependencies registry owner uris h := h.trans (grows_addDependencies assets owner uris registry)

namespace ReadingInvariant

variable {assets : Assets} (invariant : ReadingInvariant assets ofStore ofRegistry)

include invariant

/-! ## Reading documents -/

theorem keeps_require (standard : Standard) (stem : String) :
    Keeps ofStore (Store.require assets standard stem) :=
  Store.keeps_require invariant.load standard stem

theorem keeps_requireExtension (name tag : String) :
    Keeps ofStore (Store.requireExtension assets name tag) :=
  (invariant.loadExtension name tag).bind fun _ => .require _ _

theorem keeps_entryDocument (entry : Entry) : Keeps ofStore (Registry.documentOf assets entry) := by
  unfold Registry.documentOf
  split
  · exact .pure _
  · exact invariant.keeps_require _ _
  · exact invariant.keeps_requireExtension _ _

theorem keeps_target (reference : Reference) :
    Keeps ofStore (Store.target assets reference) :=
  Store.keeps_target invariant.load reference

theorem keeps_targetFrom (reference : Reference) (document : Json) :
    Keeps ofStore (Resolution.targetFrom assets reference document) := by
  unfold Resolution.targetFrom
  split
  · exact .pure _
  · exact invariant.keeps_target reference

theorem keeps_followDocuments (hops : Nat) (taken : List Resolution.Hop) (reference : Reference)
    (current : Json) :
    Keeps ofStore (Resolution.followDocuments assets hops taken reference current) := by
  induction hops generalizing taken reference current with
  | zero => exact .pure _
  | succ hops ih =>
    unfold Resolution.followDocuments
    simp only
    split
    · exact .pure _
    · refine (invariant.keeps_target reference).bind fun found => ?_
      split
      · exact .pure _
      · refine (Keeps.ofExcept _).bind fun next => ?_
        split
        · exact .pure _
        · split
          · exact .pure _
          · exact ih _ _ _

theorem keeps_documentOf (fragment : Json) (enclosing : Option Json) (fallback : Bool) :
    Keeps ofStore (Resolution.documentOf assets fragment enclosing fallback) := by
  unfold Resolution.documentOf
  split
  · exact .pure _
  · split
    · exact .pure _
    · exact (Keeps.ofExcept _).bind fun _ => invariant.keeps_followDocuments _ _ _ _

/-! ## Registering -/

theorem keeps_addScan (owner : Option String) (scan : Scan) :
    Keeps ofRegistry (Registry.addScan assets owner scan) := by
  intro registry before
  rw [Registry.after_addScan]
  exact invariant.dependencies registry owner scan.references before

/-! ## Following references -/

theorem keeps_turn (recursive : Bool) (taken : List Resolution.Hop) (spot : Resolution.Spot) :
    Keeps (Session.Holds ofStore ofRegistry) (Resolution.turn assets recursive taken spot) := by
  unfold Resolution.turn
  split
  · exact .pure _
  · simp only
    split
    · exact .pure _
    · refine (Keeps.ofExcept _).bind fun reference => ?_
      split
      · exact .pure _
      · split
        · exact .pure _
        · refine (Session.keeps_reading (invariant.keeps_targetFrom _ _)).bind fun found => ?_
          split
          · exact .pure _
          · exact (Session.keeps_registering (invariant.keeps_addScan _ _)).bind fun _ => .pure _

theorem keeps_followFragments (recursive : Bool) (hops : Nat) (taken : List Resolution.Hop)
    (spot : Resolution.Spot) :
    Keeps (Session.Holds ofStore ofRegistry)
      (Resolution.followFragments assets recursive hops taken spot) := by
  induction hops generalizing taken spot with
  | zero => exact .pure _
  | succ hops ih =>
    refine (invariant.keeps_turn recursive taken spot).bind fun found => ?_
    split
    · exact .pure _
    · split
      · exact .pure _
      · exact ih _ _

theorem keeps_resolveFragment (fragment : Json) (enclosing : Option Json) (recursive : Bool) :
    Keeps (Session.Holds ofStore ofRegistry)
      (Resolution.resolve assets fragment enclosing recursive) := by
  unfold Resolution.resolve
  split
  · exact .pure _
  · exact invariant.keeps_followFragments _ _ _ _

theorem keeps_typeOf (fragment : Json) (enclosing : Option Json) :
    Keeps (Session.Holds ofStore ofRegistry) (Resolution.typeOf assets fragment enclosing) := by
  unfold Resolution.typeOf
  split
  · exact .pure _
  · exact (invariant.keeps_resolveFragment _ _ _).bind fun _ => .pure _

end ReadingInvariant

namespace Invariant

variable {assets : Assets} (invariant : Invariant assets ofStore ofRegistry)

include invariant

/-! ## Seeding -/

theorem keeps_seedBaseline (rows : List (String × String)) :
    Keeps ofRegistry (Registry.seedBaseline assets rows) := by
  refine Keeps.each fun row _ => ?_
  refine (Keeps.ofExcept _).bind fun standard => .modify fun registry before => ?_
  split
  · exact before
  · exact invariant.seed registry standard row.1 before

theorem keeps_seedExtension {extension : Assets.ExtensionDocument}
    (listed : extension ∈ assets.extensionDocuments) :
    Keeps (Session.Holds ofStore ofRegistry) (Registry.seedExtension assets extension) := by
  intro session before
  refine Step.holds_after_bind (Session.keeps_reading ?_ session before) ?_
  · exact (invariant.loadExtension _ _).bind fun _ => .require _ _
  · intro document changed h after
    obtain ⟨store, hread, rfl⟩ := Session.reading_eq_ok.1 h
    obtain ⟨found, middle, hload, hfound⟩ := Step.bind_eq_ok.1 hread
    obtain ⟨rfl, rfl⟩ := Step.require_eq_ok.1 hfound
    have registered := invariant.extension _ _ _ _ _ listed before.1 before.2 hload
    rw [Session.after_registering]
    exact ⟨after.1, invariant.keeps_addScan _ _ _ registered⟩

theorem keeps_seedExtensions :
    Keeps (Session.Holds ofStore ofRegistry)
      (Registry.seedExtensions assets assets.extensionDocuments) :=
  .each fun _ listed => invariant.keeps_seedExtension listed

/-! ## Closing -/

theorem keeps_resolve (id : String) :
    Keeps (Session.Holds ofStore ofRegistry) (Registry.resolve assets id) := by
  intro session before
  refine Step.holds_after_bind before fun value changed h _ => ?_
  cases h
  split
  · exact before
  · next entry hentry =>
    refine Step.holds_after_bind
      (Session.keeps_reading (invariant.keeps_entryDocument entry) session before) ?_
    intro document changed h after
    obtain ⟨store, hread, rfl⟩ := Session.reading_eq_ok.1 h
    rw [Session.after_registering]
    refine ⟨after.1, Step.holds_after_bind (invariant.keeps_addScan _ _ _ after.2) ?_⟩
    intro _ registry hscan _
    -- an entry is settled only if its scan came to the end
    obtain ⟨hcomplete, rfl⟩ := Registry.addScan_eq_ok.1 hscan
    exact invariant.settle _ _ _ _ _ _ before.1 before.2 hentry hread hcomplete

theorem keeps_resolveAll (ids : List String) :
    Keeps (Session.Holds ofStore ofRegistry) (Registry.resolveAll assets ids) :=
  .each fun id _ => invariant.keeps_resolve id

theorem keeps_close (passes : Nat) :
    Keeps (Session.Holds ofStore ofRegistry) (Registry.close assets passes) := by
  induction passes with
  | zero =>
    refine Keeps.get.bind fun session => ?_
    simp only
    split
    · exact .pure _
    · exact .throw _
  | succ passes ih =>
    refine Keeps.get.bind fun session => ?_
    simp only
    split
    · exact .pure _
    · exact (invariant.keeps_resolveAll _).bind fun _ => ih

theorem keeps_finalize : Keeps (Session.Holds ofStore ofRegistry) (Registry.finalize assets) :=
  (Session.keeps_registering (invariant.keeps_seedBaseline _)).bind fun _ =>
    invariant.keeps_seedExtensions.bind fun _ => invariant.keeps_close _

end Invariant

/-! ## Operations -/

/-- What can be asked of a registry and the documents that it is used with. Of the entries that are
    registered from outside, those that are resolved hold their documents. -/
inductive Operation where
  | register (entry : Entry) (sound : entry.Sound)
  | registerReference (uri : String)
  | extract (owner : Option String) (properties : Json)
  | finalize
  | resolveDocument (fragment : Json) (enclosing : Option Json) (fallback : Bool)
  | resolveFragment (fragment : Json) (enclosing : Option Json) (recursive : Bool)
  | typeOf (fragment : Json) (enclosing : Option Json)

namespace Operation

/-- The step that an operation is, without its answer. -/
def run (assets : Assets) : Operation → Step Session Unit
  | register entry _ => Session.registering (modify fun registry => registry.register entry)
  | registerReference uri =>
    Session.registering (modify fun registry => registry.registerReference assets uri)
  | extract owner properties => Session.registering (Registry.extract assets owner properties)
  | finalize => Registry.finalize assets
  | resolveDocument fragment enclosing fallback => do
    let _ ← Session.reading (Resolution.documentOf assets fragment enclosing fallback)
  | resolveFragment fragment enclosing recursive => do
    let _ ← Resolution.resolve assets fragment enclosing recursive
  | typeOf fragment enclosing => do
    let _ ← Resolution.typeOf assets fragment enclosing

end Operation

/-- An invariant is kept by every operation, if it is kept by the entries that are registered from
    outside. -/
theorem Invariant.keeps_run {assets : Assets} (invariant : Invariant assets ofStore ofRegistry)
    (operation : Operation)
    (register : ∀ entry sound, operation = .register entry sound →
      ∀ registry, ofRegistry registry → ofRegistry (registry.register entry)) :
    Keeps (Session.Holds ofStore ofRegistry) (operation.run assets) := by
  cases operation with
  | register entry sound =>
    exact Session.keeps_registering (.modify (register entry sound rfl))
  | registerReference uri =>
    refine Session.keeps_registering (.modify fun registry before => ?_)
    rw [Registry.registerReference_eq]
    exact invariant.dependencies registry none [uri] before
  | extract owner properties => exact Session.keeps_registering (invariant.keeps_addScan _ _)
  | finalize => exact invariant.keeps_finalize
  | resolveDocument fragment enclosing fallback =>
    exact (Session.keeps_reading (invariant.keeps_documentOf _ _ _)).bind fun _ => .pure _
  | resolveFragment fragment enclosing recursive =>
    exact (invariant.keeps_resolveFragment _ _ _).bind fun _ => .pure _
  | typeOf fragment enclosing => exact (invariant.keeps_typeOf _ _).bind fun _ => .pure _

end ResourceModel

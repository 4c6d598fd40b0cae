import ResourceModel.Proofs.Registry.Coverage
import ResourceModel.Proofs.Store

set_option autoImplicit false

/-! # The closure is complete

While the registry is completed, entries that are resolved stay covered: what their documents
mention has an entry. When nothing is pending any more every entry is resolved, so the registry
holds all that can be reached, each schema with the document of its own place. -/

namespace ResourceModel

/-! ## Documents at their places -/

/-- Whether a document is that of the place of an entry: the schema document of its standard and
    stem, or the extension document of its id and version. -/
inductive Entry.Placed (assets : Assets) (entry : Entry) (document : Json) : Prop where
  | bundle (origin : entry.origin = .bundle)
      (found : assets.document? entry.standard entry.stem = .ok (some document))
  | extension {version : Version} (origin : entry.origin = .extension)
      (versioned : entry.version = some version)
      (found : assets.extension? entry.id version.tag = .ok (some document))

/-- Whether an entry of the extension area has a version, and the document that an entry holds, if
    it holds one, is that of its place. -/
structure Entry.Rooted (assets : Assets) (entry : Entry) : Prop where
  versioned : entry.origin = .extension → entry.version.isSome = true
  placed : ∀ document, entry.document = some document → entry.Placed assets document

namespace Entry

variable {assets : Assets}

theorem rooted_pending (standard : Standard) (id : String) (version : Option Version) :
    (pending standard id version).Rooted assets :=
  ⟨fun h => by simp [pending] at h, fun _ h => by simp [pending] at h⟩

theorem rooted_ofExtension {id : String} {version : Version} {document : Option Json}
    (h : ∀ held, document = some held → assets.extension? id version.tag = .ok (some held)) :
    (ofExtension id version document).Rooted assets :=
  ⟨fun _ => rfl, fun held hheld => .extension rfl rfl (h held hheld)⟩

theorem rooted_entryOf (mentioned : Mention) :
    (Registry.entryOf assets mentioned).Rooted assets := by
  unfold Registry.entryOf
  simp only
  split
  · exact rooted_pending _ _ _
  · split
    · exact rooted_ofExtension fun _ h => by simp at h
    · exact rooted_pending _ _ _

/-- The document that is read for an entry is that of its place. -/
theorem Rooted.placed_of_documentOf {entry : Entry} (h : entry.Rooted assets)
    {store changed : Store} (faithful : store.Faithful assets) {document : Json}
    (hdocument : Registry.documentOf assets entry store = .ok document changed) :
    entry.Placed assets document := by
  unfold Registry.documentOf at hdocument
  cases hheld : entry.document with
  | some held =>
    rw [hheld] at hdocument
    cases hdocument
    exact h.placed document hheld
  | none =>
    cases origin : entry.origin with
    | bundle =>
      rw [hheld, origin] at hdocument
      exact .bundle origin (faithful.document?_of_require hdocument)
    | extension =>
      obtain ⟨version, hversion⟩ := Option.isSome_iff_exists.1 (h.versioned origin)
      rw [hheld, origin, hversion] at hdocument
      exact .extension origin hversion (faithful.extension?_of_require hdocument)

/-- What marking an entry as resolved leaves as it is: the place of its document. -/
theorem Placed.resolved {entry : Entry} {document : Json} (h : entry.Placed assets document) :
    ({ entry with resolved := true, document := some document } : Entry).Placed assets document := by
  cases h with
  | bundle origin found => exact .bundle origin found
  | extension origin versioned found => exact .extension origin versioned found

end Entry

namespace Registry

/-! ## The invariant -/

/-- Whether a registry is well-formed, its documents are those of their places, and what the
    documents of resolved entries mention has entries. -/
structure Closed (assets : Assets) (registry : Registry) : Prop where
  wellFormed : registry.WellFormed
  rooted : ∀ id entry, registry.get? id = some entry → entry.Rooted assets
  covered : ∀ id entry document mentioned, registry.get? id = some entry → entry.resolved = true →
    entry.document = some document → document.Mentions mentioned →
      (registry.get? mentioned.id).isSome

namespace Closed

variable {assets : Assets}

theorem empty : Registry.empty.Closed assets :=
  ⟨wellFormed_empty, fun _ _ h => by simp at h, fun _ _ _ _ h => by simp at h⟩

/-- What is added to a closed registry is to be resolved: the entries that are new are not. -/
theorem grow {registry grown : Registry} (h : registry.Closed assets) (grows : registry.Grows grown)
    (wellFormed : grown.WellFormed)
    (added : ∀ id entry, grown.get? id = some entry → registry.get? id = some entry ∨
      entry.Rooted assets ∧ entry.resolved = false) : grown.Closed assets := by
  refine ⟨wellFormed, fun id entry hentry => ?_, fun id entry document mentioned hentry resolved
    hdocument hmentions => ?_⟩
  · rcases added id entry hentry with hold | ⟨rooted, _⟩
    · exact h.rooted id entry hold
    · exact rooted
  · rcases added id entry hentry with hold | ⟨_, unresolved⟩
    · exact grows.isSome (h.covered id entry document mentioned hold resolved hdocument hmentions)
    · rw [unresolved] at resolved
      simp at resolved

theorem register {registry : Registry} (h : registry.Closed assets) {entry : Entry}
    (rooted : entry.Rooted assets) (unresolved : entry.resolved = false) :
    (registry.register entry).Closed assets := by
  refine h.grow (grows_register registry entry) (h.wellFormed.register ?_) fun id found hfound => ?_
  · intro resolved
    rw [unresolved] at resolved
    simp at resolved
  · refine (get?_register_cases hfound).imp_right fun heq => ?_
    rw [heq]
    exact ⟨rooted, unresolved⟩

theorem addDependencies {registry : Registry} (h : registry.Closed assets)
    (owner : Option String) (uris : List String) :
    (registry.addDependencies assets owner uris).Closed assets := by
  refine h.grow (grows_addDependencies assets owner uris registry)
    (h.wellFormed.addDependencies assets owner uris) fun id found hfound => ?_
  refine (get?_addDependencies_cases hfound).imp_right ?_
  rintro ⟨mentioned, rfl⟩
  exact ⟨Entry.rooted_entryOf mentioned, (entryOf_unresolved assets mentioned).1⟩

/-- Settling an entry whose document is covered keeps a registry closed. -/
theorem settle {old registry : Registry} (h : registry.Closed assets) {entry : Entry}
    (grows : old.Grows registry) (hentry : old.get? entry.id = some entry) {document : Json}
    (placed : entry.Placed assets document)
    (covered : ∀ mentioned, document.Mentions mentioned → (registry.get? mentioned.id).isSome) :
    (registry.settle entry document).Closed assets := by
  rcases settle_cases grows hentry document with heq | ⟨hcurrent, hentries⟩
  · rw [heq]
    exact h
  · -- only the row of the entry differs, and that one has the document that is covered
    have lookup : ∀ id found, (registry.settle entry document).get? id = some found →
        registry.get? id = some found ∨
          found = { entry with resolved := true, document := some document } := by
      intro id found hfound
      unfold get? at hfound ⊢
      rw [hentries, Table.get?_put] at hfound
      split at hfound
      · exact Or.inr (Option.some.inj hfound).symm
      · exact Or.inl hfound
    refine ⟨h.wellFormed.settle grows hentry document, fun id found hfound => ?_,
      fun id found held mentioned hfound resolved hheld hmentions => ?_⟩
    · rcases lookup id found hfound with hold | rfl
      · exact h.rooted id found hold
      · refine ⟨(h.rooted entry.id entry hcurrent).versioned, fun held hheld => ?_⟩
        cases hheld
        exact placed.resolved
    · rw [get?_settle_isSome]
      rcases lookup id found hfound with hold | rfl
      · exact h.covered id found held mentioned hold resolved hheld hmentions
      · cases hheld
        exact covered mentioned hmentions

end Closed

/-- A document whose scan came to its end is covered once its references are registered. -/
theorem get?_addDependencies_isSome_of_mentions {assets : Assets} {document : Json} {levels : Nat}
    (complete : (Scan.ofDocument levels document).complete) {mentioned : Mention}
    (h : document.Mentions mentioned) (registry : Registry) (owner : Option String) :
    ((registry.addDependencies assets owner (Scan.ofDocument levels document).references).get?
      mentioned.id).isSome := by
  refine (get?_addDependencies_isSome assets owner _ registry _).2 (Or.inr ⟨mentioned, ?_, rfl⟩)
  exact (Scan.mem_mentions_ofDocument complete).2 h

theorem invariant_closed (assets : Assets) :
    Invariant assets (Store.Faithful assets) (Closed assets) where
  load := Store.keeps_faithful_load
  loadExtension := Store.keeps_faithful_loadExtension
  dependencies _ owner uris h := h.addDependencies owner uris
  seed _ _ _ h := h.register (Entry.rooted_pending _ _ _) rfl
  extension _ _ extension document _ _ faithful h hload := by
    refine h.register (Entry.rooted_ofExtension fun held hheld => ?_) rfl
    cases hheld
    exact faithful.extension?_of_load hload
  settle registry _ id entry document _ faithful h hentry hdocument complete := by
    obtain rfl := h.wellFormed.id_of_get? hentry
    refine (h.addDependencies (some entry.id) _).settle
      (grows_addDependencies assets (some entry.id) _ registry) hentry
      ((h.rooted entry.id entry hentry).placed_of_documentOf faithful hdocument) ?_
    intro mentioned hmentions
    exact get?_addDependencies_isSome_of_mentions complete hmentions registry (some entry.id)

/-! ## The completed registry -/

/-- Whether a registry is complete: nothing is pending, there is one entry for each id, each entry is
    resolved and holds the document of its place, whatever these documents mention has a resolved
    entry, and so has every schema that is always emitted and every extension document. -/
structure Complete (assets : Assets) (registry : Registry) : Prop where
  settled : registry.pending = []
  own : ∀ row ∈ registry.entries, row.2.id = row.1
  unique : (Table.keys registry.entries).Nodup
  resolved : ∀ row ∈ registry.entries, row.2.resolved = true
  placed : ∀ row ∈ registry.entries, ∃ document, row.2.document = some document ∧
    row.2.Placed assets document
  covered : ∀ row ∈ registry.entries, ∀ document mentioned, row.2.document = some document →
    document.Mentions mentioned → registry.HasResolved mentioned.id
  baseline : ∀ row ∈ assets.config.registry.baseline, registry.HasResolved row.1
  extensions : ∀ extension ∈ assets.extensionDocuments, registry.HasResolved extension.id

variable {assets : Assets}

/-- The sessions that operations over fixed files lead to from an empty registry, where only pending
    entries are registered from outside. -/
inductive Reached (assets : Assets) : Session → Prop where
  | start {store : Store} (faithful : store.Faithful assets) : Reached assets ⟨store, .empty⟩
  | run {session : Session} (h : Reached assets session) (operation : Operation)
      (pending : ∀ entry sound, operation = .register entry sound →
        entry = .pending entry.standard entry.id entry.version) :
      Reached assets ((operation.run assets).after session)

theorem Reached.closed {session : Session} (h : Reached assets session) :
    session.Holds (Store.Faithful assets) (Closed assets) := by
  induction h with
  | start faithful => exact ⟨faithful, .empty⟩
  | run _ operation pending ih =>
    refine (invariant_closed assets).keeps_run operation ?_ _ ih
    intro entry sound heq registry before
    rw [pending entry sound heq]
    exact before.register (Entry.rooted_pending _ _ _) rfl

/-- A bundle in which the schema that is always emitted leads to a second one, and that to a third. -/
def mentioningChain : Assets where
  files := Store.bundleFiles
    [("A.json", "\x7b\"definitions\":\x7b\"A\":\x7b\"$ref\":\"B.v1_0_0.json\"\x7d\x7d\x7d"),
    ("B.v1_0_0.json", "\x7b\"definitions\":\x7b\"B\":\x7b\"$ref\":\"C.v1_0_0.json\"\x7d\x7d\x7d"),
    ("C.v1_0_0.json", "\x7b\x7d")]
  config := { registry := { baseline := [("A", "redfish")], fileMap := [] } }

end Registry

end ResourceModel

import ResourceModel.Proofs.Assets.Extensions
import ResourceModel.Proofs.Registry.Closure

set_option autoImplicit false

/-! # Entries of the extension area

An entry of the extension area has the id and the version of a document that is listed there, and
holds what stands in the file of the version's tag. An entry of a bundle is not resolved without a
document in the bundle. So a schema that only the extension area has stays there, whatever mentions
it, and the registry is completed with one of the listed versions. -/

namespace ResourceModel

open Step (FailsIn FailsFrom Keeps)

/-! ## Entries -/

/-- Whether an entry says what a listed document says, and holds what is loaded for it. -/
structure Entry.OfDocument (assets : Assets) (entry : Entry) (document : Assets.ExtensionDocument) :
    Prop where
  listed : document ∈ assets.extensionDocuments
  own : document.id = entry.id
  standard : entry.standard = .redfish
  version : entry.version = some document.version
  held : ∀ content, entry.document = some content →
    assets.extension? document.id document.version.tag = .ok (some content)

/-- Whether an entry of the extension area is one of a listed document, and one of a bundle is still
    to be resolved if no document is known for its id. -/
structure Entry.Homed (assets : Assets) (known : String → Prop) (entry : Entry) : Prop where
  area : entry.origin = .extension → ∃ document, entry.OfDocument assets document
  bundle : entry.origin = .bundle → ¬ known entry.id →
    entry.resolved = false ∧ entry.document = none

/-- Whether a bundle has documents only of ids for which a document is known. -/
def Assets.BundlesOnly (assets : Assets) (known : String → Prop) : Prop :=
  ∀ id, ¬ known id → ∀ standard version, assets.jsonPath? standard (stemOf id version) = none

namespace Entry

variable {assets : Assets} {known : String → Prop}

theorem homed_pending (standard : Standard) (id : String) (version : Option Version) :
    (pending standard id version).Homed assets known :=
  ⟨fun h => by simp [pending] at h, fun _ _ => ⟨rfl, rfl⟩⟩

theorem homed_known {id : String} (h : known id) (standard : Standard) (version : Option Version)
    (document : Json) : (Entry.known standard id version document).Homed assets known :=
  ⟨fun horigin => by simp [Entry.known] at horigin, fun _ hunknown => absurd h hunknown⟩

theorem homed_ofExtension {document : Assets.ExtensionDocument} {content : Option Json}
    (listed : document ∈ assets.extensionDocuments)
    (held : ∀ found, content = some found →
      assets.extension? document.id document.version.tag = .ok (some found)) :
    (ofExtension document.id document.version content).Homed assets known :=
  ⟨fun _ => ⟨document, listed, rfl, rfl, rfl, held⟩, fun h => by simp [ofExtension] at h⟩

/-- A schema that is mentioned is looked up among the listed documents. -/
theorem homed_entryOf (mentioned : Mention) :
    (Registry.entryOf assets mentioned).Homed assets known := by
  unfold Registry.entryOf
  simp only
  split
  · exact homed_pending _ _ _
  · split
    · next document hfound =>
      obtain ⟨listed, own⟩ := Assets.mem_of_findExtension? hfound
      rw [← own]
      exact homed_ofExtension listed fun _ h => by simp at h
    · exact homed_pending _ _ _

theorem OfDocument.extension?_of_documentOf {entry : Entry} {document : Assets.ExtensionDocument}
    (h : entry.OfDocument assets document) (origin : entry.origin = .extension)
    {store changed : Store} (faithful : store.Faithful assets) {content : Json}
    (hcontent : Registry.documentOf assets entry store = .ok content changed) :
    assets.extension? document.id document.version.tag = .ok (some content) := by
  unfold Registry.documentOf at hcontent
  cases hheld : entry.document with
  | some held =>
    rw [hheld] at hcontent
    cases hcontent
    exact h.held content hheld
  | none =>
    rw [hheld, origin, h.version, ← h.own] at hcontent
    exact faithful.extension?_of_require hcontent

/-- Marking an entry as resolved with the document that is read for it keeps it where it is. -/
theorem Homed.settled {entry : Entry} (h : entry.Homed assets known)
    (only : assets.BundlesOnly known) {store changed : Store} (faithful : store.Faithful assets)
    {content : Json} (hcontent : Registry.documentOf assets entry store = .ok content changed) :
    ({ entry with resolved := true, document := some content } : Entry).Homed assets known := by
  refine ⟨fun origin => ?_, fun origin hunknown => ?_⟩
  · obtain ⟨document, hdocument⟩ := h.area origin
    refine ⟨document, hdocument.listed, hdocument.own, hdocument.standard, hdocument.version, ?_⟩
    rintro found ⟨⟩
    exact hdocument.extension?_of_documentOf origin faithful hcontent
  · -- a bundle has no document to resolve the entry with
    have hnone := (h.bundle origin hunknown).2
    have origin : entry.origin = .bundle := origin
    unfold Registry.documentOf at hcontent
    rw [hnone, origin] at hcontent
    have hdocument := faithful.document?_of_require hcontent
    unfold Assets.document? stem at hdocument
    rw [only entry.id hunknown] at hdocument
    cases hdocument

end Entry

namespace Registry

variable {assets : Assets} {known : String → Prop}

/-! ## The invariant -/

/-- Whether a registry is well-formed, and its entries are where they belong. -/
structure Homed (assets : Assets) (known : String → Prop) (registry : Registry) : Prop where
  wellFormed : registry.WellFormed
  homed : ∀ id entry, registry.get? id = some entry → entry.Homed assets known

namespace Homed

theorem empty : Registry.empty.Homed assets known :=
  ⟨wellFormed_empty, fun _ _ h => by simp at h⟩

theorem register {registry : Registry} (h : registry.Homed assets known) {entry : Entry}
    (sound : entry.Sound) (homed : entry.Homed assets known) :
    (registry.register entry).Homed assets known := by
  refine ⟨h.wellFormed.register sound, fun id found hfound => ?_⟩
  rcases get?_register_cases hfound with hold | rfl
  · exact h.homed id found hold
  · exact homed

theorem addDependencies {registry : Registry} (h : registry.Homed assets known)
    (owner : Option String) (uris : List String) :
    (registry.addDependencies assets owner uris).Homed assets known := by
  refine ⟨h.wellFormed.addDependencies assets owner uris, fun id found hfound => ?_⟩
  rcases get?_addDependencies_cases hfound with hold | ⟨mentioned, rfl⟩
  · exact h.homed id found hold
  · exact Entry.homed_entryOf mentioned

theorem settle {old registry : Registry} (h : registry.Homed assets known) {entry : Entry}
    (grows : old.Grows registry) (hentry : old.get? entry.id = some entry)
    (only : assets.BundlesOnly known) {store changed : Store} (faithful : store.Faithful assets)
    {content : Json} (hcontent : documentOf assets entry store = .ok content changed) :
    (registry.settle entry content).Homed assets known := by
  rcases settle_cases grows hentry content with heq | ⟨hcurrent, hentries⟩
  · rw [heq]
    exact h
  · refine ⟨h.wellFormed.settle grows hentry content, fun id found hfound => ?_⟩
    unfold get? at hfound
    rw [hentries, Table.get?_put] at hfound
    split at hfound
    · cases hfound
      exact (h.homed entry.id entry hcurrent).settled only faithful hcontent
    · exact h.homed id found hfound

end Homed

theorem invariant_homed (only : assets.BundlesOnly known) :
    Invariant assets (Store.Faithful assets) (Homed assets known) where
  load := Store.keeps_faithful_load
  loadExtension := Store.keeps_faithful_loadExtension
  dependencies _ owner uris h := h.addDependencies owner uris
  seed _ _ _ h := h.register (Entry.sound_pending _ _ _) (Entry.homed_pending _ _ _)
  extension _ _ document _ _ listed faithful h hload := by
    refine h.register (Entry.sound_ofExtension _ _ _) (Entry.homed_ofExtension listed ?_)
    rintro found ⟨⟩
    exact faithful.extension?_of_load hload
  settle registry _ id entry content _ faithful h hentry hcontent _ := by
    obtain rfl := h.wellFormed.id_of_get? hentry
    exact (h.addDependencies (some entry.id) _).settle
      (grows_addDependencies assets (some entry.id) _ registry) hentry only faithful hcontent

/-! ## Sessions -/

/-- The sessions that operations over fixed files lead to from an empty registry. In between, other
    documents may be read and bound to nodes. From outside come entries that are still to be
    resolved, and for known ids also entries with a document. -/
inductive ReachedWith (assets : Assets) (known : String → Prop) : Session → Prop where
  | start {store : Store} (faithful : store.Faithful assets) :
      ReachedWith assets known ⟨store, .empty⟩
  | read {session : Session} (h : ReachedWith assets known session) {store : Store}
      (faithful : store.Faithful assets) : ReachedWith assets known ⟨store, session.registry⟩
  | run {session : Session} (h : ReachedWith assets known session) (operation : Operation)
      (made : ∀ entry sound, operation = .register entry sound →
        entry = .pending entry.standard entry.id entry.version ∨
          known entry.id ∧ ∃ document,
            entry = .known entry.standard entry.id entry.version document) :
      ReachedWith assets known ((operation.run assets).after session)

theorem ReachedWith.homed {session : Session} (h : ReachedWith assets known session)
    (only : assets.BundlesOnly known) :
    session.Holds (Store.Faithful assets) (Homed assets known) := by
  induction h with
  | start faithful => exact ⟨faithful, .empty⟩
  | read _ faithful ih => exact ⟨faithful, ih.2⟩
  | run _ operation made ih =>
    refine (invariant_homed only).keeps_run operation ?_ _ ih
    intro entry sound heq registry before
    refine before.register sound ?_
    rcases made entry sound heq with hpending | ⟨hknown, document, hmade⟩
    · rw [hpending]
      exact Entry.homed_pending _ _ _
    · rw [hmade]
      exact Entry.homed_known hknown _ _ _

/-! ## Documents that are missing -/

/-- Whether an error is accounted for, if it says that a document is missing: it is one that a
    bundle lacks, or one that is listed in the extension area but has no file under the tag of its
    version. -/
inductive Accounted (assets : Assets) : Error → Prop where
  | bundle {standard : Standard} {stem : String} (h : assets.jsonPath? standard stem = none) :
      Accounted assets (assets.missingJson standard stem)
  | listed {document : Assets.ExtensionDocument} (listed : document ∈ assets.extensionDocuments)
      (h : assets.files.isFile (assets.extensionPath document.id document.version.tag) = false) :
      Accounted assets (.missingDocument document.path none)
  | looked {document : Assets.ExtensionDocument} (listed : document ∈ assets.extensionDocuments)
      (h : assets.files.isFile (assets.extensionPath document.id document.version.tag) = false) :
      Accounted assets
        (.missingDocument (assets.extensionPath document.id document.version.tag) none)
  | other {error : Error} (h : ∀ path suggestion, error ≠ .missingDocument path suggestion) :
      Accounted assets error

theorem Accounted.of_unreadable {error : Error} (h : Store.Unreadable error) :
    Accounted assets error := by
  refine .other fun path suggestion => ?_
  cases h <;> simp

theorem failsFrom_require (standard : Standard) (stem : String) :
    FailsFrom (Store.Faithful assets) (Accounted assets) (Store.require assets standard stem) := by
  refine .require ((Store.failsIn_load standard stem).imp fun _ => .of_unreadable) ?_
  intro store changed faithful h
  have hnone := faithful.document?_of_load h
  refine .bundle ?_
  unfold Assets.document? at hnone
  split at hnone
  · next path _ =>
    cases hread : assets.readJson path stem <;> simp [hread, Except.map] at hnone
  · assumption

/-- An extension document is missing only where there is no file for it. -/
theorem failsFrom_loadExtension {name tag : String} {error : Error}
    (h : assets.files.isFile (assets.extensionPath name tag) = false → Accounted assets error) :
    FailsFrom (Store.Faithful assets) (Accounted assets)
      (Store.loadExtension assets name tag >>= fun found => Step.require found error) := by
  refine .require ((Store.failsIn_loadExtension name tag).imp fun _ => .of_unreadable) ?_
  exact fun store changed faithful hload =>
    h (Assets.extension?_eq_none_iff.1 (faithful.extension?_of_load hload))

theorem failsFrom_documentOf {entry : Entry} (homed : entry.Homed assets known) :
    FailsFrom (Store.Faithful assets) (Accounted assets) (documentOf assets entry) := by
  unfold documentOf
  split
  · exact .of_failsIn (.pure _)
  · exact failsFrom_require _ _
  · next origin =>
    obtain ⟨document, hdocument⟩ := homed.area origin
    rw [hdocument.version, ← hdocument.own]
    exact failsFrom_loadExtension fun h => .looked hdocument.listed h

theorem failsIn_scan (owner : Option String) (scan : Scan) :
    FailsIn (Accounted assets) (addScan assets owner scan) := by
  refine (FailsIn.modify _).bind fun _ => ?_
  split
  · exact .pure _
  · exact .throw (.other (by simp))

theorem failsIn_baseline (rows : List (String × String)) :
    FailsIn (Accounted assets) (seedBaseline assets rows) := by
  refine FailsIn.each (fun row => ?_) rows
  refine (FailsIn.ofExcept fun error h => .other fun path suggestion => ?_).bind fun _ => .modify _
  unfold Standard.ofName at h
  split at h
  · cases h
  · split at h <;> cases h
    simp

theorem failsFrom_seedExtension {document : Assets.ExtensionDocument}
    (listed : document ∈ assets.extensionDocuments) :
    FailsFrom (Session.Holds (Store.Faithful assets) (Homed assets known)) (Accounted assets)
      (seedExtension assets document) := by
  have fails : FailsFrom (Store.Faithful assets) (Accounted assets)
      (Store.loadExtension assets document.id document.version.tag >>= fun found =>
        Step.require found (.missingDocument document.path none)) :=
    failsFrom_loadExtension fun h => .listed listed h
  refine .bind (Session.keeps_reading ?_) (fails.onPart fun _ h => h.1) fun content =>
    .of_failsIn (.onPart ((FailsIn.modify _).bind fun _ => failsIn_scan _ _))
  exact (Store.keeps_faithful_loadExtension _ _).bind fun _ => .require _ _

theorem failsFrom_resolve (id : String) :
    FailsFrom (Session.Holds (Store.Faithful assets) (Homed assets known)) (Accounted assets)
      (resolve assets id) := by
  intro session error final before h
  rcases Step.bind_eq_error.1 h with hget | ⟨_, _, hget, hrest⟩
  · cases hget
  · cases hget
    cases hentry : session.registry.get? id with
    | none =>
      rw [hentry] at hrest
      cases hrest
    | some entry =>
      rw [hentry] at hrest
      rcases Step.bind_eq_error.1 hrest with hread | ⟨content, middle, _, hregister⟩
      · have fails := failsFrom_documentOf (before.2.homed id entry hentry)
        exact fails.onPart (fun _ h => h.1) session error final before hread
      · refine (FailsIn.onPart ?_ : FailsIn (Accounted assets) _) middle error final hregister
        exact (failsIn_scan _ _).bind fun _ => .modify _

theorem failsFrom_close (only : assets.BundlesOnly known) (passes : Nat) :
    FailsFrom (Session.Holds (Store.Faithful assets) (Homed assets known)) (Accounted assets)
      (close assets passes) := by
  induction passes with
  | zero =>
    refine .bind .get (.of_failsIn .get) fun session => ?_
    simp only
    split
    · exact .of_failsIn (.pure _)
    · exact .of_failsIn (.throw (.other (by simp)))
  | succ passes ih =>
    refine .bind .get (.of_failsIn .get) fun session => ?_
    simp only
    split
    · exact .of_failsIn (.pure _)
    · exact .bind ((invariant_homed only).keeps_resolveAll _)
        (.each (fun id _ => (invariant_homed only).keeps_resolve id)
          fun id _ => failsFrom_resolve id) fun _ => ih

/-- Completing a registry fails with a missing document only where one is missing. -/
theorem failsFrom_finalize (only : assets.BundlesOnly known) :
    FailsFrom (Session.Holds (Store.Faithful assets) (Homed assets known)) (Accounted assets)
      (finalize assets) := by
  have invariant := invariant_homed only
  refine .bind (Session.keeps_registering (invariant.keeps_seedBaseline _))
    (.of_failsIn (.onPart (failsIn_baseline _))) fun _ => ?_
  refine .bind invariant.keeps_seedExtensions ?_ fun _ => failsFrom_close only _
  exact .each (fun _ listed => invariant.keeps_seedExtension listed)
    fun _ listed => failsFrom_seedExtension listed

/-! ## Documents that are listed -/

theorem invariant_faithful (assets : Assets) :
    Invariant assets (Store.Faithful assets) fun _ => True where
  load := Store.keeps_faithful_load
  loadExtension := Store.keeps_faithful_loadExtension
  dependencies _ _ _ _ := trivial
  seed _ _ _ _ := trivial
  extension _ _ _ _ _ _ _ _ _ := trivial
  settle _ _ _ _ _ _ _ _ _ _ _ := trivial

/-- A registry is completed only if each listed document has a file under the tag of its version. -/
theorem isFile_of_finalize {session final : Session} (faithful : session.store.Faithful assets)
    (h : finalize assets session = .ok () final) {document : Assets.ExtensionDocument}
    (listed : document ∈ assets.extensionDocuments) :
    assets.files.isFile (assets.extensionPath document.id document.version.tag) = true := by
  have invariant := invariant_faithful assets
  obtain ⟨registry, _, _, hextensions, _⟩ := finalize_eq_ok h
  have before : ({ session with registry } : Session).Holds (Store.Faithful assets)
      fun _ => True := ⟨faithful, trivial⟩
  obtain ⟨first, last, ⟨hfirst, -⟩, hseed⟩ := Step.exists_ok_of_each
    (fun _ hlisted => invariant.keeps_seedExtension hlisted) before hextensions listed
  obtain ⟨content, store, _, hload, -, -⟩ := seedExtension_eq_ok hseed
  exact (Assets.extension?_eq_some_iff.1 (hfirst.extension?_of_load hload)).1

/-- A listed document lies at the path of its tag exactly if its name spells the version by the tag,
    and then it is what is loaded. Nothing is loaded exactly where there is no file at that path,
    and then the registry is not completed. Whatever else is missing when a registry is not completed is
    missing in a bundle. -/
theorem loadExtension_listed_iff (assets : Assets) :
    (∀ id wanted document, assets.findExtension? id wanted = some document →
      document ∈ assets.extensionDocuments) ∧
    (∀ document ∈ assets.extensionDocuments, ∃ raw, Assets.StoredAs assets document raw ∧
      (assets.extensionPath document.id document.version.tag = document.path ↔
        Version.IsTag raw) ∧
      ∀ store : Store, store.Faithful assets →
        ((Store.loadExtension assets document.id document.version.tag).answer store = .ok none ↔
          assets.files.isFile (assets.extensionPath document.id document.version.tag) = false) ∧
        (Version.IsTag raw → assets.files.isFile document.path = true →
          (Store.loadExtension assets document.id document.version.tag).answer store =
            (assets.readJson document.path (Assets.extensionStem document.id raw)).map some) ∧
        ∀ registry final, finalize assets ⟨store, registry⟩ = .ok () final →
          assets.files.isFile (assets.extensionPath document.id document.version.tag) = true) ∧
    ∀ session error final, ReachedWith assets (fun _ => True) session →
      finalize assets session = .error error final → Accounted assets error := by
  refine ⟨fun id wanted document h => (Assets.mem_of_findExtension? h).1, ?_, ?_⟩
  · intro document listed
    obtain ⟨raw, stored⟩ := Assets.mem_extensionDocuments_iff.1 listed
    refine ⟨raw, stored, stored.extensionPath_tag_iff, fun store faithful => ⟨?_, ?_, ?_⟩⟩
    · rw [faithful.answer_loadExtension, Assets.extension?_eq_none_iff]
    · intro tagged hfile
      obtain rfl := (Version.parse?_tag stored.parsed).2.2 tagged
      rw [stored.path] at hfile ⊢
      rw [faithful.answer_loadExtension, Assets.extension?_eq, if_pos hfile]
    · exact fun registry final h => isFile_of_finalize faithful h listed
  · intro session error final reached h
    have only : assets.BundlesOnly (fun _ => True) := fun _ hunknown => absurd trivial hunknown
    exact failsFrom_finalize only session error final (reached.homed only) h

/-- An extension document that mentions its own schema without a version. -/
def selfMentioningExtension : Assets where
  files := Assets.areaFiles [("Ext.v1_0_0.json",
    "\x7b\"definitions\":\x7b\"Ext\":\x7b\"$ref\":\"Ext.json\"\x7d\x7d\x7d")]
  config := { registry := { baseline := [], fileMap := [] } }

/-- The document of `selfMentioningExtension`. -/
def selfMentioningDocument : Assets.ExtensionDocument :=
  ⟨"Ext", ⟨"v1_0_0", 1, 0, 0⟩, ⟨"./assets/oem/json-schema/Ext.v1_0_0.json"⟩⟩

theorem loadExtension_selfMentioningExtension :
    let assets := selfMentioningExtension
    let document := selfMentioningDocument
    document ∈ assets.extensionDocuments ∧ assets.extensionPath "Ext" "v1_0_0" = document.path ∧
      (Store.loadExtension assets "Ext" "v1_0_0").answer .empty =
        (assets.readJson document.path "Ext.v1_0_0").map some := by
  intro assets document
  have listed : document ∈ assets.extensionDocuments := by decide +kernel
  have hpath : assets.extensionPath "Ext" "v1_0_0" = document.path := by decide +kernel
  obtain ⟨raw, stored, tagged, loads⟩ := (loadExtension_listed_iff assets).2.1 document listed
  have htag := tagged.1 hpath
  obtain rfl := (Version.parse?_tag stored.parsed).2.2 htag
  exact ⟨listed, hpath, (loads .empty Store.faithful_empty).2.1 htag (by decide +kernel)⟩

/-- An extension document whose name spells its version with dots. -/
def dottedExtension : Assets where
  files := Assets.areaFiles [("Ext.1.0.0.json", "\x7b\x7d")]
  config := { registry := { baseline := [], fileMap := [] } }

/-- A document that is listed need not be loaded. Here none of the three holds: its file is there
    but is looked for under another name, and completing the registry fails because the very file
    that was listed is said to be missing. -/
theorem loadExtension_listed_not_always :
    ¬ ∀ (assets : Assets) (document : Assets.ExtensionDocument),
      document ∈ assets.extensionDocuments → assets.files.isFile document.path = true →
      assets.extensionPath document.id document.version.tag = document.path ∨
        (Store.loadExtension assets document.id document.version.tag).answer .empty ≠ .ok none ∨
        (finalize assets).answer .start ≠ .error (.missingDocument document.path none) := by
  intro holds
  let document : Assets.ExtensionDocument :=
    ⟨"Ext", ⟨"v1_0_0", 1, 0, 0⟩, ⟨"./assets/oem/json-schema/Ext.1.0.0.json"⟩⟩
  have listed : document ∈ dottedExtension.extensionDocuments := by decide +kernel
  have hfile : dottedExtension.files.isFile document.path = true := by decide +kernel
  obtain ⟨error, final, hfails, rfl⟩ : ∃ error final,
      finalize dottedExtension .start = .error error final ∧
        error = .missingDocument document.path none := by decide +kernel
  rcases holds dottedExtension document listed hfile with hpath | hloads | hcompletes
  · exact absurd hpath (by decide +kernel)
  · refine hloads ?_
    rw [Store.faithful_empty.answer_loadExtension, Assets.extension?_eq_none_iff]
    decide +kernel
  · exact hcompletes (Step.answer_of_error hfails)

/-! ## Schemas of the extension area -/

/-- A schema that the extension area lists and no bundle has is completed as an extension: in a
    version that is listed for it, with what stands in the file of this version. -/
theorem extension_of_finalize {listed : Assets.ExtensionDocument} {session final : Session}
    (hlisted : listed ∈ assets.extensionDocuments)
    (unbundled : ∀ standard stem, stemId stem = listed.id →
      assets.jsonPath? standard stem = none)
    (reached : ReachedWith assets (· ≠ listed.id) session)
    (h : finalize assets session = .ok () final) :
    ∃ entry document content, final.registry.get? listed.id = some entry ∧
      entry.resolved = true ∧ entry.origin = .extension ∧ entry.standard = .redfish ∧
      document ∈ assets.extensionDocuments ∧ document.id = listed.id ∧
      entry.version = some document.version ∧ entry.document = some content ∧
      assets.readJson (assets.extensionPath document.id document.version.tag)
        (Assets.extensionStem document.id document.version.tag) = .ok content ∧
      (assets.files.Slashless →
        document.path = assets.extensionPath document.id document.version.tag) := by
  have only : assets.BundlesOnly (· ≠ listed.id) := by
    intro id hid standard version
    obtain rfl := not_not.1 hid
    exact unbundled standard _ (stemId_stemOf (Assets.undotted_of_mem hlisted) version)
  obtain ⟨-, homed⟩ := (invariant_homed only).keeps_finalize.of_ok h (reached.homed only)
  obtain ⟨entry, hentry, resolved⟩ := (hasResolved_finalize_iff h).2 (.extension hlisted rfl)
  have own := homed.wellFormed.id_of_get? hentry
  have hhomed := homed.homed _ entry hentry
  obtain origin : entry.origin = .extension := by
    cases origin : entry.origin with
    | extension => rfl
    | bundle =>
      have hpending := (hhomed.bundle origin (by simp [own])).1
      rw [resolved] at hpending
      cases hpending
  obtain ⟨document, hdocument⟩ := hhomed.area origin
  have sound := homed.wellFormed.sound _ (Table.mem_of_get? hentry) resolved
  obtain ⟨content, hcontent⟩ := Option.isSome_iff_exists.1 sound
  obtain ⟨hfile, hread⟩ := Assets.extension?_eq_some_iff.1 (hdocument.held content hcontent)
  have hid : document.id = listed.id := hdocument.own.trans own
  by_cases slashless : assets.files.Slashless
  · exact ⟨entry, _, content, hentry, resolved, origin, hdocument.standard,
      Assets.listed_at_tag slashless hdocument.listed hfile, hid, hdocument.version, hcontent,
      hread, fun _ => rfl⟩
  · exact ⟨entry, document, content, hentry, resolved, origin, hdocument.standard,
      hdocument.listed, hid, hdocument.version, hcontent, hread, fun h => absurd h slashless⟩

/-- The schema of `selfMentioningExtension` is registered as one of a bundle first, then it is
    mentioned, and last its own document mentions it. -/
theorem extension_of_finalize_selfMentioning :
    let assets := selfMentioningExtension
    let pending := Operation.register (.pending .redfish "Ext" none) (Entry.sound_pending _ _ _)
    let mention := Operation.registerReference "Ext.json#/definitions/Ext"
    let session := (mention.run assets).after ((pending.run assets).after .start)
    ∃ final entry, finalize assets session = .ok () final ∧
      final.registry.get? "Ext" = some entry ∧ entry.origin = .extension ∧
      entry.version = some ⟨"v1_0_0", 1, 0, 0⟩ := by
  intro assets pending mention session
  have listed : selfMentioningDocument ∈ assets.extensionDocuments := by decide +kernel
  have reached : ReachedWith assets (· ≠ "Ext") session := by
    refine .run (.run (.start Store.faithful_empty) pending ?_) mention ?_
    · intro entry sound heq
      obtain rfl := (Operation.register.inj heq).symm
      exact Or.inl rfl
    · intro entry sound heq
      exact Operation.noConfusion heq
  have unbundled : ∀ standard stem, stemId stem = "Ext" →
      assets.jsonPath? standard stem = none := by
    intro standard stem hstem
    refine Assets.jsonPath?_of_unreached rfl ?_ ⟨'E', ?_⟩
    · cases standard <;> decide +kernel
    · rw [hstem]
      decide
  obtain ⟨⟨⟩, final, h, hversion⟩ : ∃ value final, finalize assets session = .ok value final ∧
      (final.registry.get? "Ext").bind Entry.version = some ⟨"v1_0_0", 1, 0, 0⟩ := by
    decide +kernel
  obtain ⟨entry, _, _, hentry, _, origin, _⟩ := extension_of_finalize listed unbundled reached h
  have hentry : final.registry.get? "Ext" = some entry := hentry
  rw [hentry] at hversion
  exact ⟨final, entry, h, hentry, origin, hversion⟩

end Registry

end ResourceModel

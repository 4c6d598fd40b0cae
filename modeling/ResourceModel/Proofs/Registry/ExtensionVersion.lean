import ResourceModel.Proofs.Registry.Extensions
import ResourceModel.Proofs.Registry.History
import ResourceModel.Proofs.Registry.Version

set_option autoImplicit false

/-! # The version of a schema of the extension area

Completing a registry seeds the documents of the extension area in the order of their names. Each
offers versions of schemas: first its own one for its own schema, then those of the schemas that it
mentions. A schema gets the first version that is offered for it. That is the version of its first
document, or the greatest one if it is mentioned without a version before that. -/

namespace ResourceModel

open Step (Keeps)

/-- The schemas that a document of the extension area mentions, in the order of the mentions. -/
def Assets.mentionsOf (assets : Assets) (document : ExtensionDocument) : List Mention :=
  match assets.extension? document.id document.version.tag with
  | .ok (some content) => (Scan.ofDocument assets.config.limits.nestingDepth content).mentions
  | _ => []

namespace Registry

/-- The version that seeding a document of the extension area offers for an id. -/
def offered? (assets : Assets) (id : String) (document : Assets.ExtensionDocument) :
    Option Version :=
  if document.id = id then some document.version
  else firstVersion? assets id (assets.mentionsOf document)

/-- Whether an id is mentioned by one of the documents that stand before its first one. -/
def mentionedEarly (assets : Assets) (id : String) (documents : List Assets.ExtensionDocument) :
    Bool :=
  (documents.takeWhile fun document => document.id ≠ id).any fun document =>
    (assets.mentionsOf document).any fun mentioned => mentioned.id = id

variable {assets : Assets} {id : String}

/-! ## Seeding -/

/-- Seeding the schemas that are always emitted gives no version to an id that has none in the
    bundles. -/
theorem keeps_version?_seedBaseline
    (unbundled : ∀ standard, assets.latestVersion? standard id = none) (held : Option Version)
    (rows : List (String × String)) :
    Keeps (fun registry => registry.version? id = held) (seedBaseline assets rows) := by
  refine Keeps.each fun row _ => ?_
  refine (Keeps.ofExcept _).bind fun standard => .modify fun registry before => ?_
  split
  · exact before
  · rw [version?_register, before]
    split
    · next hid =>
      have hid : row.1 = id := hid
      subst hid
      rw [Entry.pending, unbundled, Option.or_none]
    · rw [Option.or_none]

theorem version?_addScan {owner : Option String} {scan : Scan} {registry final : Registry}
    (h : addScan assets owner scan registry = .ok () final) :
    final.version? id = (registry.version? id).or (firstVersion? assets id scan.mentions) := by
  obtain ⟨-, rfl⟩ := addScan_eq_ok.1 h
  rw [version?_of_entries (entries_addDependencies assets owner _ _), version?_registerMentions]
  rfl

/-- After a document is seeded an id is held in the version that it had, or else in the one that the
    document offers. -/
theorem version?_seedExtension {document : Assets.ExtensionDocument} {session final : Session}
    (faithful : session.store.Faithful assets)
    (h : seedExtension assets document session = .ok () final) :
    final.registry.version? id =
      (session.registry.version? id).or (offered? assets id document) := by
  obtain ⟨content, store, registry, hload, hadd, rfl⟩ := seedExtension_eq_ok h
  have hmentions : (Scan.ofDocument assets.config.limits.nestingDepth content).mentions =
      assets.mentionsOf document := by
    unfold Assets.mentionsOf
    rw [faithful.extension?_of_load hload]
  have hown : (Entry.ofExtension document.id document.version (some content)).version =
      some document.version := rfl
  rw [version?_addScan hadd, hmentions, version?_register, hown, Option.or_assoc]
  congr 1
  unfold offered?
  by_cases hid : document.id = id
  · rw [if_pos hid, if_pos (show (Entry.ofExtension _ _ _).id = id from hid), Option.some_or]
  · rw [if_neg hid, if_neg (show (Entry.ofExtension _ _ _).id ≠ id from hid), Option.none_or]

/-- After documents are seeded an id is held in the version that it had, or else in the first one
    that is offered. -/
theorem version?_seedExtensions {documents : List Assets.ExtensionDocument}
    (listed : ∀ document ∈ documents, document ∈ assets.extensionDocuments)
    {session final : Session} (faithful : session.store.Faithful assets)
    (h : seedExtensions assets documents session = .ok () final) :
    final.registry.version? id =
      (session.registry.version? id).or (documents.findSome? (offered? assets id)) := by
  induction documents generalizing session with
  | nil =>
    cases h
    rw [List.findSome?_nil, Option.or_none]
  | cons document rest ih =>
    rw [List.forall_mem_cons] at listed
    obtain ⟨middle, hseed, hrest⟩ := Step.each_cons_eq_ok.1 h
    have after := ((invariant_faithful assets).keeps_seedExtension listed.1).of_ok hseed
      ⟨faithful, trivial⟩
    rw [ih listed.2 after.1 hrest, version?_seedExtension faithful hseed, Option.or_assoc,
      List.findSome?_cons]
    congr 1
    cases offered? assets id document <;> rfl

/-- An id without a version in the bundles is completed in the version that it had, or else in the
    first one that is offered in the extension area. -/
theorem version?_finalize {session final : Session} (wellFormed : session.registry.WellFormed)
    (faithful : session.store.Faithful assets)
    (unbundled : ∀ standard, assets.latestVersion? standard id = none) {version : Version}
    (hversion : (session.registry.version? id).or
      (assets.extensionDocuments.findSome? (offered? assets id)) = some version)
    (h : finalize assets session = .ok () final) : final.registry.version? id = some version := by
  have becomes := fun old => invariant_becomes assets old
  obtain ⟨registry, extended, hseed, hextensions, hclose⟩ := finalize_eq_ok h
  have hseeded : registry.version? id = session.registry.version? id :=
    (keeps_version?_seedBaseline unbundled _ _).of_ok hseed rfl
  have hextended : extended.registry.version? id = some version := by
    have before : ({ session with registry } : Session).store.Faithful assets := faithful
    rw [version?_seedExtensions (fun _ listed => listed) before hextensions, hseeded, hversion]
  -- the closure gives versions to ids without one only
  have seededWell := ((becomes session.registry).keeps_seedBaseline _).of_ok hseed
    ⟨.refl _, wellFormed⟩
  have extendedWell := ((becomes registry).keeps_seedExtensions).of_ok hextensions
    ⟨trivial, .refl _, seededWell.2⟩
  have closed := ((becomes extended.registry).keeps_close _).of_ok hclose
    ⟨trivial, .refl _, extendedWell.2.2⟩
  exact closed.2.1.version?_eq hextended

/-! ## Mentions without a version -/

section Untagged

variable {greatest : Assets.ExtensionDocument}
  (hgreatest : assets.findExtension? id none = some greatest)
  (unbundled : ∀ standard, assets.latestVersion? standard id = none)

include hgreatest unbundled

/-- A mention without a version asks for the greatest one. -/
theorem version_entryOf_of_untagged {mentioned : Mention} (own : mentioned.id = id)
    (untagged : mentioned.tag.bind Version.parse? = none) :
    (entryOf assets mentioned).version = some greatest.version := by
  have hwanted : wantedVersion? assets mentioned = none := by
    rw [wantedVersion?, untagged, own, unbundled, Option.none_or]
  unfold entryOf
  simp only [hwanted, own, hgreatest, inBundle, Option.isSome_none, Bool.false_and,
    Bool.false_eq_true, if_false]
  rfl

theorem firstVersion?_of_untagged {mentions : List Mention}
    (untagged : ∀ mentioned ∈ mentions, mentioned.id = id →
      mentioned.tag.bind Version.parse? = none) :
    firstVersion? assets id mentions =
      if mentions.any fun mentioned => mentioned.id = id then some greatest.version else none := by
  unfold firstVersion?
  induction mentions with
  | nil => rfl
  | cons mentioned rest ih =>
    rw [List.forall_mem_cons] at untagged
    rw [List.findSome?_cons, List.any_cons]
    by_cases own : mentioned.id = id
    · rw [if_pos own, version_entryOf_of_untagged hgreatest unbundled own (untagged.1 own)]
      simp [own]
    · rw [if_neg own, ih untagged.2, decide_eq_false own, Bool.false_or]

/-- The first version that is offered is that of the first document of the id, or the greatest one
    if a document before that mentions the id. -/
theorem findSome?_offered? {documents : List Assets.ExtensionDocument}
    (untagged : ∀ document ∈ documents, ∀ mentioned ∈ assets.mentionsOf document,
      mentioned.id = id → mentioned.tag.bind Version.parse? = none)
    {first : Assets.ExtensionDocument} (hfirst : documents.find? (·.id = id) = some first) :
    documents.findSome? (offered? assets id) =
      some (if mentionedEarly assets id documents then greatest.version else first.version) := by
  induction documents with
  | nil => cases hfirst
  | cons document rest ih =>
    rw [List.forall_mem_cons] at untagged
    rw [List.findSome?_cons, offered?, mentionedEarly]
    by_cases own : document.id = id
    · rw [List.find?_cons_of_pos (by simpa using own)] at hfirst
      cases hfirst
      simp [own]
    · rw [List.find?_cons_of_neg (by simpa using own)] at hfirst
      rw [if_neg own, firstVersion?_of_untagged hgreatest unbundled untagged.1,
        List.takeWhile_cons_of_pos (by simpa using own), List.any_cons]
      cases (assets.mentionsOf document).any fun mentioned => mentioned.id = id with
      | true => rfl
      | false => exact ih untagged.2 hfirst

end Untagged

/-! ## The completed version -/

/-- A schema that the extension area lists and no bundle has is completed in the version of its first
    document, or in the greatest one if a document before that mentions it, or if it was mentioned
    before the registry is completed. All mentions are without a version here. -/
theorem version_of_finalize {listed : Assets.ExtensionDocument} {session final : Session}
    (hlisted : listed ∈ assets.extensionDocuments)
    (unbundled : ∀ standard, assets.latestVersion? standard listed.id = none)
    (untagged : ∀ document ∈ assets.extensionDocuments, ∀ mentioned ∈ assets.mentionsOf document,
      mentioned.id = listed.id → mentioned.tag.bind Version.parse? = none)
    (reachable : Reachable session.registry) (faithful : session.store.Faithful assets)
    (absent : session.registry.get? listed.id = none)
    (h : finalize assets session = .ok () final) :
    ∃ first greatest, assets.extensionDocuments.find? (·.id = listed.id) = some first ∧
      assets.findExtension? listed.id none = some greatest ∧
      (∀ other ∈ assets.extensionDocuments, other.id = listed.id →
        other.version.numbers ≤ greatest.version.numbers) ∧
      final.registry.version? listed.id =
        some (if mentionedEarly assets listed.id assets.extensionDocuments then greatest.version
          else first.version) ∧
      ∀ uri mentioned last, Mention.ofUri? uri = some mentioned → mentioned.id = listed.id →
        mentioned.tag.bind Version.parse? = none →
        finalize assets (((Operation.registerReference uri).run assets).after session) =
          .ok () last →
        last.registry.version? listed.id = some greatest.version := by
  obtain ⟨first, hfirst⟩ : ∃ first,
      assets.extensionDocuments.find? (·.id = listed.id) = some first :=
    Option.isSome_iff_exists.1 (List.find?_isSome.2 ⟨listed, hlisted, by simp⟩)
  obtain ⟨greatest, hgreatest⟩ := Assets.exists_findExtension? hlisted
  refine ⟨first, greatest, hfirst, hgreatest,
    fun other => Assets.le_of_findExtension? hgreatest, ?_, ?_⟩
  · refine version?_finalize reachable.wellFormed faithful unbundled ?_ h
    rw [version?_of_absent absent, Option.none_or]
    exact findSome?_offered? hgreatest unbundled untagged hfirst
  · intro uri mentioned last huri own hnone hlast
    have reachable' := Reachable.run reachable assets session.store (.registerReference uri)
    refine version?_finalize reachable'.wellFormed faithful unbundled ?_ hlast
    -- the mention gives the greatest version, so nothing that is offered later counts
    have hmentioned : (session.registry.registerMention assets mentioned).version? listed.id =
        some greatest.version := by
      rw [version?_registerMention, version?_of_absent absent, Option.none_or, if_pos own]
      exact version_entryOf_of_untagged hgreatest unbundled own hnone
    have hregistry : (((Operation.registerReference uri).run assets).after session).registry =
        session.registry.registerMention assets mentioned := by
      change session.registry.registerReference assets uri = _
      rw [registerReference, huri]
    rw [hregistry, hmentioned, Option.some_or]

/-- Two documents of a schema in the extension area, whose names spell its versions so. -/
def twoVersions (first second : String) : Assets where
  files := Assets.areaFiles [("Ext." ++ first ++ ".json", "\x7b\x7d"),
    ("Ext." ++ second ++ ".json", "\x7b\x7d")]
  config := { registry := { baseline := [], fileMap := [] } }

/-- The document of a version of `twoVersions`. -/
def versionDocument (version : Version) : Assets.ExtensionDocument :=
  ⟨"Ext", version, ⟨"./assets/oem/json-schema/Ext." ++ version.tag ++ ".json"⟩⟩

/-- By its name the greater one of two versions stands first here. -/
theorem version_of_finalize_twoVersions :
    let assets := twoVersions "v1_10_0" "v1_9_0"
    let greater : Version := ⟨"v1_10_0", 1, 10, 0⟩
    ∃ final, finalize assets .start = .ok () final ∧
      assets.findExtension? "Ext" none = some (versionDocument greater) ∧
      final.registry.version? "Ext" = some greater := by
  intro assets greater
  have ordered : assets.files.InOrder := by decide +kernel
  have hdocuments : assets.extensionDocuments =
      [versionDocument greater, versionDocument ⟨"v1_9_0", 1, 9, 0⟩] := by
    unfold Assets.extensionDocuments FileTree.list
    simp only [FileTree.listAt_of_inOrder ordered]
    decide +kernel
  have hlisted : versionDocument greater ∈ assets.extensionDocuments := by simp [hdocuments]
  have unbundled : ∀ standard, assets.latestVersion? standard "Ext" = none := by
    intro standard
    cases standard <;> decide +kernel
  have unmentioned : ∀ document ∈ assets.extensionDocuments, assets.mentionsOf document = [] := by
    rw [hdocuments]
    decide +kernel
  have hgreatest : assets.findExtension? "Ext" none = some (versionDocument greater) := by
    unfold Assets.findExtension?
    rw [hdocuments]
    decide +kernel
  obtain ⟨⟨⟩, final, h⟩ : ∃ value final, finalize assets .start = .ok value final := by
    unfold finalize
    rw [hdocuments]
    decide +kernel
  obtain ⟨first, greatest, hfirst, hfound, -, hversion, -⟩ :=
    version_of_finalize hlisted unbundled
      (fun document hdocument => by simp [unmentioned document hdocument]) .empty
      Store.faithful_empty rfl h
  obtain rfl := Option.some.inj (hfound.symm.trans hgreatest)
  rw [hdocuments] at hfirst hversion
  cases hfirst
  rw [ite_self] at hversion
  exact ⟨final, h, hgreatest, hversion⟩

/-- The version that a schema is completed in need not be the greatest one, also where nothing
    mentions the schema: here a lesser one stands first. -/
theorem version_of_finalize_not_greatest :
    ¬ ∀ (assets : Assets) (session final : Session) (id : String)
      (greatest : Assets.ExtensionDocument),
      (∀ standard, assets.latestVersion? standard id = none) →
      (∀ document ∈ assets.extensionDocuments, assets.mentionsOf document = []) →
      Reachable session.registry → session.store.Faithful assets →
      session.registry.get? id = none → assets.findExtension? id none = some greatest →
      finalize assets session = .ok () final →
      final.registry.version? id = some greatest.version := by
  intro holds
  let assets := twoVersions "v1_0_0" "v1_1_0"
  let lesser := versionDocument ⟨"v1_0_0", 1, 0, 0⟩
  let greater := versionDocument ⟨"v1_1_0", 1, 1, 0⟩
  have ordered : assets.files.InOrder := by decide +kernel
  have hdocuments : assets.extensionDocuments = [lesser, greater] := by
    unfold Assets.extensionDocuments FileTree.list
    simp only [FileTree.listAt_of_inOrder ordered]
    decide +kernel
  have unbundled : ∀ standard, assets.latestVersion? standard "Ext" = none := by
    intro standard
    cases standard <;> decide +kernel
  have unmentioned : ∀ document ∈ assets.extensionDocuments, assets.mentionsOf document = [] := by
    rw [hdocuments]
    decide +kernel
  have hgreatest : assets.findExtension? "Ext" none = some greater := by
    unfold Assets.findExtension?
    rw [hdocuments]
    decide +kernel
  obtain ⟨⟨⟩, final, h, hversion⟩ : ∃ value final, finalize assets .start = .ok value final ∧
      final.registry.version? "Ext" = some lesser.version := by
    unfold finalize
    rw [hdocuments]
    decide +kernel
  have hheld := holds assets .start final "Ext" greater unbundled unmentioned .empty
    Store.faithful_empty rfl hgreatest h
  rw [hversion] at hheld
  exact absurd hheld (by decide)

end Registry

end ResourceModel

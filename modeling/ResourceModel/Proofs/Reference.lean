import ResourceModel.Proofs.Assets.LatestVersion
import ResourceModel.Proofs.Url
import ResourceModel.Reference
import ResourceModel.Registry.Basic

set_option autoImplicit false

/-! # References of the bundles

The documents of the bundles refer to each other by addresses of one form: a base, a file name and
maybe a fragment. Such a reference is read twice, by the resolution as an address and by the registry
as a text with a file name in it, and both readings lead to the same schema. -/

namespace ResourceModel

/-! ## The form of a reference -/

/-- What stands before the file name in a reference. -/
inductive ReferenceBase where
  | sibling
  | redfish
  | swordfish
  deriving DecidableEq, Repr

/-- The base as it is written. -/
def ReferenceBase.text : ReferenceBase → String
  | sibling => ""
  | redfish => "http://redfish.dmtf.org/schemas/v1/"
  | swordfish => "http://redfish.dmtf.org/schemas/swordfish/v1/"

/-- Whether a character may stand in a file stem. -/
def isStemChar (c : Char) : Bool :=
  c.isAlphanum || c = '_' || c = '-' || c = '.'

/-- A reference from one document of the bundles to another one. -/
structure BundleReference where
  base : ReferenceBase
  stem : String
  fragment : Option String
  stem_ne_empty : stem ≠ ""
  isStemChar_of_stem : ∀ c ∈ stem.toList, isStemChar c = true
  /-- The documents whose names start so are never registered. -/
  stem_not_odata : ¬ "odata".toList <+: stem.toList
  isStemChar_of_fragment : ∀ text ∈ fragment, ∀ c ∈ text.toList, isStemChar c = true ∨ c = '/'
  /-- The fragment names no document. -/
  fragment_not_json : ∀ text ∈ fragment, ¬ ".json".toList <:+: text.toList

/-! ## Characters -/

theorem toNat_lt_of_isAlphanum {c : Char} (h : c.isAlphanum = true) : c.toNat < 0x7F := by
  have within : ∀ last : UInt32, last.toNat < 0x7F → c.val ≤ last → c.toNat < 0x7F :=
    fun last hlast hle => Nat.lt_of_le_of_lt (UInt32.le_iff_toNat_le.1 hle) hlast
  rcases Bool.or_eq_true_iff.1 h with hletter | hdigit
  · rcases Bool.or_eq_true_iff.1 hletter with hupper | hlower
    · exact within 'Z'.val (by decide) (of_decide_eq_true hupper).2
    · exact within 'z'.val (by decide) (of_decide_eq_true (Bool.and_eq_true_iff.1 hlower).2)
  · exact within '9'.val (by decide) (of_decide_eq_true (Bool.and_eq_true_iff.1 hdigit).2)

theorem toNat_of_isStemChar {c : Char} (h : isStemChar c = true) :
    0x20 < c.toNat ∧ c.toNat < 0x7F := by
  constructor
  · have hcontrol : ∀ n ≤ 0x20, isStemChar (Char.ofNat n) = false := by decide
    by_contra hlow
    have hc := hcontrol c.toNat (Nat.not_lt.1 hlow)
    rw [Char.ofNat_toNat, h] at hc
    cases hc
  · simp only [isStemChar, Bool.or_eq_true, decide_eq_true_eq] at h
    rcases h with ((h | rfl) | rfl) | rfl
    · exact toNat_lt_of_isAlphanum h
    all_goals decide

theorem ne_of_isStemChar {c d : Char} (h : isStemChar c = true) (hd : isStemChar d = false) :
    c ≠ d := by
  rintro rfl
  rw [h] at hd
  cases hd

theorem isFragmentPlain_of_isStemChar {c : Char} (h : isStemChar c = true) :
    Url.isFragmentPlain c = true := by
  obtain ⟨hlow, hhigh⟩ := toNat_of_isStemChar h
  have hmark : c.toNat ≠ 0x60 := fun heq =>
    ne_of_isStemChar h (d := Char.ofNat 0x60) (by decide) (Char.toNat_inj.1 heq)
  simp only [Url.isFragmentPlain, Bool.and_eq_true, decide_eq_true_eq]
  exact ⟨⟨⟨⟨⟨hlow, hhigh⟩, ne_of_isStemChar h (by decide)⟩, ne_of_isStemChar h (by decide)⟩,
    ne_of_isStemChar h (by decide)⟩, hmark⟩

theorem isPathPlain_of_isStemChar {c : Char} (h : isStemChar c = true) :
    Url.isPathPlain c = true := by
  simp only [Url.isPathPlain, Bool.and_eq_true, decide_eq_true_eq]
  exact ⟨⟨⟨⟨isFragmentPlain_of_isStemChar h, ne_of_isStemChar h (by decide)⟩,
    ne_of_isStemChar h (by decide)⟩, ne_of_isStemChar h (by decide)⟩, ne_of_isStemChar h (by decide)⟩

theorem ReferenceBase.visible (base : ReferenceBase) : ∀ c ∈ base.text.toList, 0x20 < c.toNat := by
  cases base <;> decide

theorem ReferenceBase.closed (base : ReferenceBase) {c : Char}
    (h : c ∈ base.text.toList.getLast?) : c = '/' := by
  have hlast : base.text.toList.getLast? = none ∨ base.text.toList.getLast? = some '/' := by
    cases base <;> decide
  rcases hlast with hlast | hlast
  · rw [hlast] at h
    cases h
  · exact Option.some.inj (h.symm.trans hlast)

namespace BundleReference

variable (ref : BundleReference)

/-- The file name in the reference. -/
def fileName : List Char :=
  ref.stem.toList ++ ".json".toList

/-- What follows the file name. -/
def ending : List Char :=
  match ref.fragment with
  | some text => '#' :: text.toList
  | none => []

/-- The reference as it is written. -/
def uri : String :=
  ref.base.text ++ ref.stem ++ ".json" ++
    match ref.fragment with
    | some text => "#" ++ text
    | none => ""

theorem toList_uri : ref.uri.toList = ref.base.text.toList ++ (ref.fileName ++ ref.ending) := by
  unfold uri fileName ending
  cases ref.fragment <;> simp

theorem isStemChar_of_fileName : ∀ c ∈ ref.fileName, isStemChar c = true := by
  intro c hc
  rcases List.mem_append.1 hc with hc | hc
  · exact ref.isStemChar_of_stem c hc
  · exact (by decide : ∀ c ∈ ".json".toList, isStemChar c = true) c hc

theorem fileName_ne_nil : ref.fileName ≠ [] := by
  simp [fileName]

theorem segment_fileName : Url.Segment ref.fileName where
  plain c hc := isPathPlain_of_isStemChar (ref.isStemChar_of_fileName c hc)
  whole c hc := by
    have h := ref.isStemChar_of_fileName c hc
    simp only [Url.isSeparator, Bool.or_eq_false_iff, decide_eq_false_iff_not,
      Bool.and_eq_false_iff]
    exact ⟨ne_of_isStemChar h (by decide), Or.inl (ne_of_isStemChar h (by decide))⟩
  not_dots := by
    -- no spelling of a dot segment ends in the last letter of a file name
    have hlast : (ref.fileName.map Char.toLower).getLast? = some 'n' := by simp [fileName]
    have hspelled : ∀ spellings : List (List Char),
        (∀ spelling ∈ spellings, spelling.getLast? ≠ some 'n') →
          Url.isSpelling spellings ref.fileName = false := by
      intro spellings hne
      rw [Url.isSpelling, List.contains_eq_mem, decide_eq_false_iff_not]
      exact fun hmem => hne _ hmem hlast
    rw [Url.isDotSegment, hspelled _ (by decide), hspelled _ (by decide)]
    rfl

theorem endsPath_of_ending : ∀ c ∈ ref.ending.head?, Url.endsPath c = true := by
  unfold ending
  split
  · intro c hc
    cases hc
    decide
  · intro c hc
    cases hc

/-- The characters of a reference behind its base. -/
theorem mem_file {c : Char} (h : c ∈ ref.fileName ++ ref.ending) :
    isStemChar c = true ∨ c = '#' ∨ c = '/' := by
  rcases List.mem_append.1 h with h | h
  · exact Or.inl (ref.isStemChar_of_fileName c h)
  · unfold ending at h
    split at h
    · next text hfragment =>
      rcases List.mem_cons.1 h with rfl | h
      · exact Or.inr (Or.inl rfl)
      · exact (ref.isStemChar_of_fragment text hfragment c h).imp_right Or.inr
    · cases h

theorem visible_file : ∀ c ∈ ref.fileName ++ ref.ending, 0x20 < c.toNat := by
  intro c hc
  rcases ref.mem_file hc with h | rfl | rfl
  · exact (toNat_of_isStemChar h).1
  · decide
  · decide

/-! ## Read as an address -/

theorem hash_not_mem_front : '#' ∉ ref.base.text.toList ++ ref.fileName := by
  intro hmem
  rcases List.mem_append.1 hmem with hmem | hmem
  · exact absurd hmem (by cases ref.base <;> decide)
  · exact absurd (ref.isStemChar_of_fileName _ hmem) (by decide)

theorem fragment_uri :
    Url.fragment (ref.base.text.toList ++ (ref.fileName ++ ref.ending)) =
      (ref.fragment.getD "").toList := by
  rw [← List.append_assoc]
  unfold ending
  cases hfragment : ref.fragment with
  | some text =>
    refine Url.fragment_append ref.hash_not_mem_front fun c hc => ?_
    rcases ref.isStemChar_of_fragment text hfragment c hc with h | rfl
    · exact isFragmentPlain_of_isStemChar h
    · decide
  | none =>
    rw [List.append_nil]
    exact Url.fragment_of_not_mem ref.hash_not_mem_front

/-- The reference leads to its file name and its fragment. -/
theorem resolve?_uri :
    Url.resolve? ref.uri.toList = some ⟨ref.fileName, (ref.fragment.getD "").toList⟩ := by
  have hfragment := ref.fragment_uri
  have hvisible : ∀ c ∈ ref.base.text.toList ++ (ref.fileName ++ ref.ending), 0x20 < c.toNat := by
    intro c hc
    rcases List.mem_append.1 hc with hc | hc
    · exact ref.base.visible c hc
    · exact ref.visible_file c hc
  have absolute : ∀ path : List Char, Url.Directory ('/' :: path) →
      ref.base.text.toList =
        "http:".toList ++ '/' :: '/' :: ("redfish.dmtf.org".toList ++ '/' :: path) →
      Url.resolve? ref.uri.toList = some ⟨ref.fileName, (ref.fragment.getD "").toList⟩ := by
    intro path hdirectory hbase
    have isHost : Url.isHost "redfish.dmtf.org".toList = true := by decide +kernel
    rw [← hfragment, toList_uri]
    refine Url.resolve?_http isHost (by decide) hdirectory ref.segment_fileName
      ref.endsPath_of_ending ?_ hvisible
    rw [hbase]
    simp only [List.append_assoc, List.cons_append]
  cases hbase : ref.base with
  | sibling =>
    -- without a colon there is no scheme, however the stem begins
    have hcolon : ':' ∉ ref.fileName ++ ref.ending := by
      intro hmem
      rcases ref.mem_file hmem with h | h | h
      · exact absurd h (by decide)
      · exact absurd h (by decide)
      · exact absurd h (by decide)
    rw [hbase] at hfragment
    rw [← hfragment, toList_uri, hbase]
    exact Url.resolve?_relative ref.segment_fileName ref.fileName_ne_nil ref.visible_file hcolon
      ref.endsPath_of_ending
  | redfish => exact absolute "schemas/v1/".toList ⟨by decide, by decide⟩ (by rw [hbase]; rfl)
  | swordfish =>
    exact absolute "schemas/swordfish/v1/".toList ⟨by decide, by decide⟩ (by rw [hbase]; rfl)

theorem not_local : textAfter? "#" ref.uri = none := by
  refine Option.eq_none_iff_forall_not_mem.2 fun rest hrest => ?_
  have huri := congrArg String.toList (textAfter?_eq_some_iff.1 hrest)
  rw [toList_uri, ← List.append_assoc] at huri
  have hfront := ref.hash_not_mem_front
  -- the fragment may start with `#`, so it is the first character that counts
  obtain ⟨c, others, hcons⟩ := List.exists_cons_of_ne_nil
    (List.append_ne_nil_of_right_ne_nil ref.base.text.toList ref.fileName_ne_nil)
  rw [hcons] at huri hfront
  have hc : c = '#' := by simpa using congrArg List.head? huri
  exact hfront (hc ▸ List.mem_cons_self)

/-- The reference as the resolution reads it. -/
def parsed : Reference :=
  ⟨ref.uri, some ref.stem, nonEmptyParts (ref.fragment.getD "") '/', Standard.ofUri ref.uri⟩

theorem parse_uri : Reference.parse ref.uri = .ok ref.parsed := by
  have hfile : String.ofList ref.fileName = ref.stem ++ ".json" := by
    apply String.toList_injective
    simp [fileName]
  have hstem : textBefore? ".json" (String.ofList ref.fileName) = some ref.stem :=
    textBefore?_eq_some_iff.2 hfile
  simp only [Reference.parse, ref.not_local, ref.resolve?_uri, hstem, Option.getD_some,
    ref.stem_ne_empty, if_false, Reference.pointerOf, String.ofList_toList]
  rfl

/-! ## Read as a text -/

theorem beforeLast?_uri :
    Mention.beforeLast? ".json".toList ref.uri.toList =
      some (ref.base.text.toList ++ ref.stem.toList) := by
  have hchars : ref.uri.toList.reverse = ref.ending.reverse ++
      (".json".toList.reverse ++ (ref.base.text.toList ++ ref.stem.toList).reverse) := by
    rw [toList_uri, ← List.append_assoc, List.reverse_append, fileName,
      ← List.append_assoc, List.reverse_append]
  have hfound : Text.suffixAfter? ".json".toList.reverse ref.uri.toList.reverse =
      some (ref.base.text.toList ++ ref.stem.toList).reverse := by
    -- from the end the fragment comes first: neither it nor anything across `#` holds the piece
    rw [hchars]
    unfold ending
    cases hfragment : ref.fragment with
    | some text =>
      have habsent : ¬ ".json".toList.reverse <:+: text.toList.reverse :=
        mt List.reverse_infix.1 (ref.fragment_not_json text hfragment)
      rw [List.reverse_cons, List.append_assoc, List.singleton_append,
        Text.suffixAfter?_append_cons (by decide) (by decide) habsent]
      exact Text.suffixAfter?_append _ _
    | none => exact Text.suffixAfter?_append _ _
  rw [Mention.beforeLast?, hfound, Option.map_some, List.reverse_reverse]

theorem fileStem?_uri : Mention.fileStem? ref.uri = some ref.stem := by
  have hplain : ∀ c ∈ ref.stem.toList, c ≠ '/' ∧ c ≠ '#' := fun c hc =>
    ⟨ne_of_isStemChar (ref.isStemChar_of_stem c hc) (by decide),
      ne_of_isStemChar (ref.isStemChar_of_stem c hc) (by decide)⟩
  have hbase : ∀ c ∈ ref.base.text.toList.getLast?, decide (c ≠ '/') = false := fun c hc =>
    decide_eq_false (not_not.2 (ref.base.closed hc))
  have hbehind : Mention.behindLast '/' (ref.base.text.toList ++ ref.stem.toList) =
      ref.stem.toList :=
    Text.reverse_takeWhile_reverse (fun c hc => decide_eq_true (hplain c hc).1) hbase
  have hkept : ref.stem.toList.dropWhile (· = '#') = ref.stem.toList :=
    Text.dropWhile_of_head? fun c hc =>
      decide_eq_false (hplain c (List.mem_of_mem_head? hc)).2
  rw [Mention.fileStem?, ref.beforeLast?_uri, Option.map_some, hbehind, hkept,
    String.ofList_toList]

theorem ofUri?_uri :
    Mention.ofUri? ref.uri =
      some ⟨Standard.ofUri ref.uri, stemId ref.stem, (splitStem ref.stem).2⟩ := by
  have hodata : (textAfter? "odata" ref.stem).isSome = false := by
    rw [textAfter?, Option.isSome_map, Bool.eq_false_iff, ne_eq, Text.isSome_after?_iff]
    exact ref.stem_not_odata
  rw [Mention.ofUri?, ref.fileStem?_uri]
  exact if_neg (by simp [ref.stem_ne_empty, hodata])

end BundleReference

/-! ## Registered -/

namespace Assets

/-- Whether the registry finds the same in two collections of documents when it looks for a schema in
    the bundle of a standard, or in the extension area. -/
structure SameBundle (standard : Standard) (assets other : Assets) : Prop where
  fileMap : other.config.registry.fileMap = assets.config.registry.fileMap
  names : (other.files.list (other.layout.jsonSchemaDir standard)).map Prod.fst =
    (assets.files.list (assets.layout.jsonSchemaDir standard)).map Prod.fst
  isFile : ∀ stem, other.files.isFile (other.jsonFile standard stem) =
    assets.files.isFile (assets.jsonFile standard stem)
  extensions : other.extensionDocuments = assets.extensionDocuments

namespace SameBundle

variable {standard : Standard} {assets other : Assets} (same : SameBundle standard assets other)
include same

theorem fileId_eq (id : String) : other.fileId id = assets.fileId id := by
  rw [fileId, fileId, same.fileMap]

theorem latestVersion?_eq (id : String) :
    other.latestVersion? standard id = assets.latestVersion? standard id := by
  rw [latestVersion?_eq_latestAmong, latestVersion?_eq_latestAmong, same.names, same.fileId_eq]

theorem isSome_jsonPath?_eq (stem : String) :
    (other.jsonPath? standard stem).isSome = (assets.jsonPath? standard stem).isSome := by
  have hstored : other.storedStem stem = assets.storedStem stem := by
    simp only [storedStem, same.fileId_eq]
  have hexisting : ∀ stem, (other.existing? (other.jsonFile standard stem)).isSome =
      (assets.existing? (assets.jsonFile standard stem)).isSome := by
    intro stem
    rw [existing?, existing?, same.isFile]
    split <;> rfl
  have hdotted : ((dottedStem? (assets.storedStem stem)).bind fun dotted =>
        other.existing? (other.jsonFile standard dotted)).isSome =
      ((dottedStem? (assets.storedStem stem)).bind fun dotted =>
        assets.existing? (assets.jsonFile standard dotted)).isSome := by
    cases dottedStem? (assets.storedStem stem) with
    | none => rfl
    | some dotted => exact hexisting dotted
  simp only [jsonPath?, hstored, Option.isSome_or, hexisting, hdotted]

theorem findExtension?_eq (id : String) (version : Option Version) :
    other.findExtension? id version = assets.findExtension? id version := by
  rw [findExtension?, findExtension?, same.extensions]

end SameBundle

end Assets

namespace Registry

/-- What a mention registers depends on the bundle of its standard and the extension area only. -/
theorem registerMention_of_sameBundle {assets other : Assets} {mentioned : Mention}
    (same : Assets.SameBundle mentioned.standard assets other) (registry : Registry) :
    registry.registerMention other mentioned = registry.registerMention assets mentioned := by
  have hwanted : wantedVersion? other mentioned = wantedVersion? assets mentioned := by
    rw [wantedVersion?, wantedVersion?, same.latestVersion?_eq]
  have hbundle : ∀ version, inBundle other mentioned.standard mentioned.id version =
      inBundle assets mentioned.standard mentioned.id version := by
    intro version
    rw [inBundle, inBundle, same.isSome_jsonPath?_eq]
  have hentry : entryOf other mentioned = entryOf assets mentioned := by
    simp only [entryOf, hwanted, hbundle, same.findExtension?_eq]
  rw [registerMention, registerMention, hentry]

end Registry

/-- The resolution and the registry read a reference of the bundles alike: the document that is to be
    loaded is the one whose schema id, the stem up to its first dot, is registered, and the registry
    looks for its version in the bundle of the same standard only. -/
theorem BundleReference.parse_registerReference (ref : BundleReference) :
    let id := String.ofList (ref.stem.toList.takeWhile (· ≠ '.'))
    ∃ parsed : Reference, Reference.parse ref.uri = .ok parsed ∧
      parsed.isLocal = false ∧ parsed.stem? = some ref.stem ∧ parsed.schemaId? = some id ∧
      parsed.pointer = nonEmptyParts (ref.fragment.getD "") '/' ∧
      parsed.standard = Standard.ofUri ref.uri ∧
      (Mention.ofUri? ref.uri).map Mention.id = some id ∧
      ∀ (assets : Assets) (registry : Registry),
        registry.registerReference assets ref.uri =
          (if registry.isVersioned id then registry
          else registry.register
            (Registry.entryOf assets ⟨parsed.standard, id, (splitStem ref.stem).2⟩)) ∧
        ∀ other : Assets, Assets.SameBundle parsed.standard assets other →
          registry.registerReference other ref.uri = registry.registerReference assets ref.uri := by
  intro id
  have hid : stemId ref.stem = id := stemId_eq_takeWhile ref.stem
  have hmention : Mention.ofUri? ref.uri =
      some ⟨ref.parsed.standard, id, (splitStem ref.stem).2⟩ := hid ▸ ref.ofUri?_uri
  refine ⟨ref.parsed, ref.parse_uri, rfl, rfl, congrArg some hid, rfl, rfl, ?_, ?_⟩
  · rw [hmention, Option.map_some]
  · intro assets registry
    simp only [Registry.registerReference, hmention]
    exact ⟨rfl, fun other same => Registry.registerMention_of_sameBundle same registry⟩

/-- A reference whose stem holds dots and a second `.json`. -/
def BundleReference.dotted : BundleReference where
  base := .swordfish
  stem := "A.json.v1_0"
  fragment := some "/definitions//A"
  stem_ne_empty := by decide
  isStemChar_of_stem := by decide
  stem_not_odata := by decide
  isStemChar_of_fragment := by
    rintro text ⟨⟩
    decide
  fragment_not_json := by
    rintro text ⟨⟩
    decide

/-- The reference belongs to one standard, so it does not matter where the bundle of the other one
    lies. -/
theorem BundleReference.parse_registerReference_dotted :
    let uri := "http://redfish.dmtf.org/schemas/swordfish/v1/A.json.v1_0.json#/definitions//A"
    let files : FileTree := ⟨[], []⟩
    (∃ parsed : Reference, Reference.parse uri = .ok parsed ∧ parsed.isLocal = false ∧
      parsed.stem? = some "A.json.v1_0" ∧ parsed.schemaId? = some "A" ∧
      parsed.pointer = ["definitions", "A"] ∧ parsed.standard = .swordfish) ∧
    (Mention.ofUri? uri).map Mention.id = some "A" ∧
    Registry.empty.registerReference ⟨files, { assets := { redfishBundle := ⟨"elsewhere"⟩ } }⟩ uri =
      Registry.empty.registerReference ⟨files, {}⟩ uri := by
  intro uri files
  have huri : BundleReference.dotted.uri = uri := by decide
  have hpointer : nonEmptyParts "/definitions//A" '/' = ["definitions", "A"] := by decide
  have hswordfish : Standard.ofUri uri = .swordfish := by decide
  obtain ⟨parsed, hparse, hlocal, hstem, hid, hparts, hstandard, hmention, hregister⟩ :=
    BundleReference.parse_registerReference BundleReference.dotted
  rw [huri] at hparse hstandard hmention hregister
  have same : Assets.SameBundle parsed.standard ⟨files, {}⟩
      ⟨files, { assets := { redfishBundle := ⟨"elsewhere"⟩ } }⟩ := by
    rw [hstandard, hswordfish]
    exact ⟨rfl, rfl, fun _ => rfl, rfl⟩
  exact ⟨⟨parsed, hparse, hlocal, hstem, hid, hparts.trans hpointer, hstandard.trans hswordfish⟩,
    hmention, (hregister _ Registry.empty).2 _ same⟩

end ResourceModel

import Mathlib.Data.List.MinMax
import ResourceModel.Proofs.Version

set_option autoImplicit false

/-! # The latest version in a bundle

The version documents of a schema id are the files whose name is the file id, a full tag and the
ending. In whatever order they are found, the latest version is one with the greatest numbers, and it
leads back to the file that it was found at. -/

namespace ResourceModel

namespace Assets

/-! ## Names of version documents -/

/-- The name of the document of a version under a file id. -/
def versionName (fileId : String) (version : Version) : String :=
  fileId ++ "." ++ version.tag ++ ".json"

theorem versionOfName?_eq_some_iff {fileId name : String} {version : Version} :
    versionOfName? fileId name = some version ↔
      version.Spelled ∧ name = versionName fileId version := by
  have piece : ∀ tag, (textAfter? (fileId ++ ".") name).bind (textBefore? ".json") = some tag ↔
      name = fileId ++ "." ++ tag ++ ".json" := by
    intro tag
    rw [Option.bind_eq_some_iff]
    constructor
    · rintro ⟨rest, hrest, htag⟩
      rw [textAfter?_eq_some_iff.1 hrest, textBefore?_eq_some_iff.1 htag, ← String.append_assoc]
    · rintro rfl
      exact ⟨tag ++ ".json", textAfter?_eq_some_iff.2 (String.append_assoc ..),
        textBefore?_eq_some_iff.2 rfl⟩
  unfold versionOfName?
  constructor
  · intro h
    split at h
    · next tag htag =>
      obtain ⟨full, hparse⟩ := Option.ite_none_right_eq_some.1 h
      obtain ⟨spelled, rfl⟩ := Version.spelled_of_fullTag full hparse
      exact ⟨spelled, (piece _).1 htag⟩
    · cases h
  · rintro ⟨spelled, hname⟩
    rw [(piece version.tag).2 hname]
    exact (if_pos spelled.fullTag.1).trans spelled.fullTag.2

/-! ## The greatest one -/

/-- The version that is left is the first one with the greatest numbers. -/
theorem foldl_later_eq_argmax (found : List Version) :
    found.foldl later none = found.argmax Version.numbers := by
  show found.foldl later none =
    found.foldl (List.argAux fun version current => current.numbers < version.numbers) none
  congr 1
  funext latest version
  cases latest with
  | none => rfl
  | some current => simp only [later, List.argAux, Version.order_eq_lt_iff]

/-! ## Listings -/

/-- The latest version of a file id when the names in a directory come in the given order. -/
def latestAmong (fileId : String) (listing : List String) : Option Version :=
  (listing.filterMap (versionOfName? fileId)).foldl later none

theorem latestVersion?_eq_latestAmong (assets : Assets) (standard : Standard) (id : String) :
    assets.latestVersion? standard id = latestAmong (assets.fileId id)
      ((assets.files.list (assets.layout.jsonSchemaDir standard)).map Prod.fst) := by
  unfold latestVersion? latestAmong
  rw [List.filterMap_map]
  rfl

theorem mem_versions_iff {fileId : String} {listing : List String} {version : Version} :
    version ∈ listing.filterMap (versionOfName? fileId) ↔
      version.Spelled ∧ versionName fileId version ∈ listing := by
  simp only [List.mem_filterMap, versionOfName?_eq_some_iff]
  constructor
  · rintro ⟨name, hname, spelled, rfl⟩
    exact ⟨spelled, hname⟩
  · rintro ⟨spelled, hname⟩
    exact ⟨_, hname, spelled, rfl⟩

theorem latestAmong_eq_none_iff {fileId : String} {listing : List String} :
    latestAmong fileId listing = none ↔
      ∀ version : Version, version.Spelled → versionName fileId version ∉ listing := by
  rw [latestAmong, foldl_later_eq_argmax, List.argmax_eq_none]
  simp only [List.eq_nil_iff_forall_not_mem, mem_versions_iff, not_and]

theorem latestAmong_eq_some {fileId : String} {listing : List String} {version : Version}
    (h : latestAmong fileId listing = some version) :
    (version.Spelled ∧ versionName fileId version ∈ listing) ∧
      ∀ other : Version, other.Spelled → versionName fileId other ∈ listing →
        other.numbers ≤ version.numbers := by
  rw [latestAmong, foldl_later_eq_argmax] at h
  exact ⟨mem_versions_iff.1 (List.argmax_mem h), fun other spelled hother =>
    List.le_of_mem_argmax (mem_versions_iff.2 ⟨spelled, hother⟩) h⟩

/-! ## The file of a version -/

theorem jsonFile_storedStem {assets : Assets} {id : String} (undotted : '.' ∉ id.toList)
    (standard : Standard) (version : Version) :
    assets.jsonFile standard (assets.storedStem (stemOf id (some version))) =
      (assets.layout.jsonSchemaDir standard).child (versionName (assets.fileId id) version) := by
  unfold storedStem stemOf
  rw [splitStem_append undotted]
  rfl

theorem jsonPath?_of_isFile {assets : Assets} {standard : Standard} {stem : String}
    (h : assets.files.isFile (assets.jsonFile standard (assets.storedStem stem)) = true) :
    assets.jsonPath? standard stem = some (assets.jsonFile standard (assets.storedStem stem)) := by
  simp only [jsonPath?, existing?, if_pos h, Option.some_or]

/-- The latest version of a schema id is found in every order of its bundle's names. There is none if
    and only if no name is a version document's, and otherwise it is one with the greatest numbers;
    the stem with its tag leads to the file that it was found at. -/
theorem latestVersion?_of_listing (assets : Assets) (standard : Standard) (id : String) :
    let dir := assets.layout.jsonSchemaDir standard
    let names := (assets.files.list dir).map Prod.fst
    let fileId := assets.fileId id
    assets.latestVersion? standard id = latestAmong fileId names ∧
    ∀ listing : List String, listing.Perm names →
      (latestAmong fileId listing = none ↔
        ∀ version : Version, version.Spelled → versionName fileId version ∉ names) ∧
      ∀ version : Version, latestAmong fileId listing = some version →
        (version.Spelled ∧ versionName fileId version ∈ names) ∧
        (∀ other : Version, other.Spelled → versionName fileId other ∈ names →
          other.numbers ≤ version.numbers) ∧
        ('.' ∉ id.toList → assets.files.isFile (dir.child (versionName fileId version)) = true →
          assets.jsonPath? standard (stemOf id (some version)) =
            some (dir.child (versionName fileId version))) := by
  intro dir names fileId
  refine ⟨latestVersion?_eq_latestAmong assets standard id, ?_⟩
  intro listing hlisting
  have hnames : ∀ name : String, name ∈ listing ↔ name ∈ names := fun name => hlisting.mem_iff
  constructor
  · simp only [← hnames]
    exact latestAmong_eq_none_iff
  · intro version hversion
    obtain ⟨hfound, hgreatest⟩ := latestAmong_eq_some hversion
    simp only [← hnames]
    refine ⟨hfound, hgreatest, ?_⟩
    intro undotted hfile
    have hpath : assets.jsonFile standard (assets.storedStem (stemOf id (some version))) =
        dir.child (versionName fileId version) := jsonFile_storedStem undotted standard version
    rw [← hpath] at hfile ⊢
    exact jsonPath?_of_isFile hfile

/-- A bundle whose documents of a schema id `X` are stored under `Y`, with documents of an id `YZ`. -/
def renamedBundle : Assets :=
  let dir : Place := ["b", "json-schema"]
  let file := FileEntry.file ByteArray.empty
  ⟨⟨[(["b"], .directory), (dir, .directory), (dir ++ ["Y.v1_10.json"], file),
      (dir ++ ["YZ.v2_0_0.json"], file), (dir ++ ["Y.v1_9_3.json"], file)], []⟩,
    { assets := { redfishBundle := ⟨"b"⟩ }, registry := { fileMap := [("X", "Y")] } }⟩

theorem latestVersion?_of_renamedBundle :
    let dir : Path := ⟨"./b/json-schema"⟩
    let listing := ["YZ.v2_0_0.json", "Y.v1_9_3.json", "Y.v1_10.json"]
    let version : Version := ⟨"v1_10", 1, 10, 0⟩
    listing.Perm ((renamedBundle.files.list dir).map Prod.fst) ∧
      latestAmong "Y" listing = some version ∧ '.' ∉ "X".toList ∧
      renamedBundle.files.isFile (dir.child "Y.v1_10.json") = true ∧
      renamedBundle.jsonPath? .redfish "X.v1_10" = some (dir.child "Y.v1_10.json") := by
  intro dir listing version
  have hlist : renamedBundle.files.list dir =
      renamedBundle.files.listAt ["b", "json-schema"] := by
    have hplace : renamedBundle.files.locate? dir = some ["b", "json-schema"] := by decide +kernel
    have hdirectory : renamedBundle.files.isDirectoryAt ["b", "json-schema"] = true := by decide
    rw [FileTree.list, hplace]
    exact if_pos hdirectory
  have hlisting : listing.Perm ((renamedBundle.files.list dir).map Prod.fst) := by
    have hsorted := (List.mergeSort_perm (renamedBundle.files.entries.filterMap fun entry =>
      (FileTree.nameBelow? ["b", "json-schema"] entry.1).map fun name => (name, entry.2))
      fun a b => FileTree.nameLe a.1 b.1).map Prod.fst
    rw [hlist]
    exact List.Perm.trans (by decide +kernel) hsorted.symm
  have hlatest : latestAmong "Y" listing = some version := by decide +kernel
  have undotted : '.' ∉ "X".toList := by decide
  have hfile : renamedBundle.files.isFile (dir.child "Y.v1_10.json") = true := by decide +kernel
  exact ⟨hlisting, hlatest, undotted, hfile,
    (((latestVersion?_of_listing renamedBundle .redfish "X").2 listing hlisting).2 version
      hlatest).2.2 undotted hfile⟩

end Assets

end ResourceModel

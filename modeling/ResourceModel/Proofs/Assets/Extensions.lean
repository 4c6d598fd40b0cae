import Mathlib.Data.List.MinMax
import ResourceModel.Proofs.FileTree
import ResourceModel.Proofs.Store
import ResourceModel.Proofs.Version

set_option autoImplicit false

/-! # The documents in the extension area

A document in the extension area stands under its schema id and some spelling of its version. It is
loaded under the tag of the version, so it is found there only if this is how its name spells it. -/

namespace ResourceModel

/-! ## Names of files -/

theorem Path.splitExtension?_eq_some_iff {name stem extension : String} :
    splitExtension? name = some (stem, extension) ↔
      name = stem ++ "." ++ extension ∧ stem ≠ "" ∧ '.' ∉ extension.toList := by
  unfold splitExtension?
  constructor
  · intro h
    split at h
    · next after before hcut =>
      obtain ⟨hname, undotted⟩ := Text.cut?_eq_some_iff.1 hcut
      obtain ⟨hempty, heq⟩ := Option.ite_none_left_eq_some.1 h
      cases heq
      refine ⟨String.toList_injective ?_, ?_, by simpa using undotted⟩
      · rw [← List.reverse_reverse name.toList, hname]
        simp
      · simpa using hempty
    · cases h
  · rintro ⟨rfl, nonempty, undotted⟩
    have hcut : Text.cut? '.' (stem ++ "." ++ extension).toList.reverse =
        some (extension.toList.reverse, stem.toList.reverse) := by
      refine Text.cut?_eq_some_iff.2 ⟨by simp, by simpa using undotted⟩
    rw [hcut]
    simp [nonempty]

namespace Assets

variable {assets : Assets} {document : ExtensionDocument} {id raw tag : String}

/-! ## Listing -/

/-- Whether an extension document stands in a file whose name spells its version so. -/
structure StoredAs (assets : Assets) (document : ExtensionDocument) (raw : String) : Prop where
  listed : ∃ entry, (extensionStem document.id raw ++ ".json", entry) ∈
    assets.files.list assets.layout.extensionJsonDir
  undotted : '.' ∉ document.id.toList
  parsed : Version.parse? raw = some document.version
  path : document.path = assets.extensionPath document.id raw

theorem extensionOfName?_eq_some_iff {dir : Path} {name : String} :
    extensionOfName? dir name = some document ↔ ∃ raw,
      name = extensionStem document.id raw ++ ".json" ∧ '.' ∉ document.id.toList ∧
        Version.parse? raw = some document.version ∧ document.path = dir.child name := by
  have ending : '.' ∉ "json".toList := by decide
  have hjson : ∀ stem : String, stem ++ "." ++ "json" = stem ++ ".json" :=
    fun stem => String.append_assoc ..
  unfold extensionOfName?
  constructor
  · intro h
    split at h
    · next stem hsplit =>
      obtain ⟨rfl, -, -⟩ := Path.splitExtension?_eq_some_iff.1 hsplit
      obtain ⟨version, hversion, rfl⟩ := Option.map_eq_some_iff.1 h
      obtain ⟨raw, hraw, hparse⟩ := Option.bind_eq_some_iff.1 hversion
      have hstem : splitStem stem = (stemId stem, some raw) := Prod.ext rfl hraw
      obtain ⟨hspelled, undotted⟩ := splitStem_eq_iff.1 hstem
      refine ⟨raw, ?_, undotted, hparse, rfl⟩
      rw [hjson, extensionStem, ← hspelled]
    · cases h
  · rintro ⟨raw, rfl, undotted, hparse, hpath⟩
    have hstem : splitStem (extensionStem document.id raw) = (document.id, some raw) :=
      splitStem_append undotted raw
    have hsplit : Path.splitExtension? (extensionStem document.id raw ++ ".json") =
        some (extensionStem document.id raw, "json") := by
      refine Path.splitExtension?_eq_some_iff.2 ⟨(hjson _).symm, ?_, ending⟩
      simp [extensionStem]
    rw [hsplit]
    simp only [Version.ofStem?, stemId, hstem, Option.bind_some, hparse, Option.map_some,
      ← hpath]

theorem mem_extensionDocuments_iff :
    document ∈ assets.extensionDocuments ↔ ∃ raw, StoredAs assets document raw := by
  unfold extensionDocuments
  simp only [List.mem_filterMap, extensionOfName?_eq_some_iff]
  constructor
  · rintro ⟨⟨name, entry⟩, hentry, raw, rfl, undotted, parsed, path⟩
    exact ⟨raw, ⟨entry, hentry⟩, undotted, parsed, path⟩
  · rintro ⟨raw, ⟨entry, hentry⟩, undotted, parsed, path⟩
    exact ⟨_, hentry, raw, rfl, undotted, parsed, path⟩

theorem undotted_of_mem (h : document ∈ assets.extensionDocuments) :
    '.' ∉ document.id.toList := by
  obtain ⟨raw, stored⟩ := mem_extensionDocuments_iff.1 h
  exact stored.undotted

/-! ## Finding -/

/-- The document that is left is the last one of the greatest version, so the first one from the
    end. -/
theorem foldl_newer_eq_argmax (found : List ExtensionDocument) :
    found.foldl newer none = found.reverse.argmax fun document => document.version.numbers := by
  induction found using List.reverseRecOn with
  | nil => rfl
  | append_singleton found document ih =>
    rw [List.foldl_concat, ih, List.reverse_concat, List.argmax_cons]
    cases found.reverse.argmax fun document => document.version.numbers with
    | none => rfl
    | some current => simp only [newer, Version.order_eq_lt_iff]

theorem findExtension?_eq_argmax (assets : Assets) (id : String) (wanted : Option Version) :
    assets.findExtension? id wanted =
      (assets.extensionDocuments.filter fun document =>
        document.id = id && wanted.all fun version => document.version.same version).reverse.argmax
        fun document => document.version.numbers :=
  foldl_newer_eq_argmax _

/-- A document that is found is listed under the id. -/
theorem mem_of_findExtension? {wanted : Option Version}
    (h : assets.findExtension? id wanted = some document) :
    document ∈ assets.extensionDocuments ∧ document.id = id := by
  rw [findExtension?_eq_argmax] at h
  obtain ⟨hmem, hmatches⟩ := List.mem_filter.1 (List.mem_reverse.1 (List.argmax_mem h))
  rw [Bool.and_eq_true, decide_eq_true_eq] at hmatches
  exact ⟨hmem, hmatches.1⟩

/-- Without a version the document that is found is one of the greatest version. -/
theorem le_of_findExtension? (h : assets.findExtension? id none = some document)
    {other : ExtensionDocument} (listed : other ∈ assets.extensionDocuments) (own : other.id = id) :
    other.version.numbers ≤ document.version.numbers := by
  rw [findExtension?_eq_argmax] at h
  refine List.le_of_mem_argmax (f := fun document : ExtensionDocument => document.version.numbers)
    ?_ h
  exact List.mem_reverse.2 (List.mem_filter.2 ⟨listed, by simp [own]⟩)

/-- A document is found without a version for every id that is listed. -/
theorem exists_findExtension? (listed : document ∈ assets.extensionDocuments) :
    ∃ found, assets.findExtension? document.id none = some found := by
  cases hfound : assets.findExtension? document.id none with
  | some found => exact ⟨found, rfl⟩
  | none =>
    rw [findExtension?_eq_argmax, List.argmax_eq_none, List.reverse_eq_nil_iff] at hfound
    exact absurd (by simp) (List.filter_eq_nil_iff.1 hfound document listed)

/-! ## Paths -/

/-- Documents of one id lie at one path only if their names spell their versions alike. -/
theorem extensionPath_inj :
    assets.extensionPath id raw = assets.extensionPath id tag ↔ raw = tag := by
  have same : ∀ raw tag : String,
      (⟨extensionStem id raw ++ ".json"⟩ : Path).isAbsolute =
        (⟨extensionStem id tag ++ ".json"⟩ : Path).isAbsolute := by
    intro raw tag
    unfold Path.isAbsolute extensionStem
    simp only [String.toList_append]
    cases id.toList <;> rfl
  unfold extensionPath extensionFile
  rw [Path.child_inj (same raw tag)]
  simp [extensionStem, String.append_right_inj, String.append_left_inj]

/-- A document is loaded from its own path exactly if its name spells its version by the tag. -/
theorem StoredAs.extensionPath_tag_iff (stored : StoredAs assets document raw) :
    assets.extensionPath document.id document.version.tag = document.path ↔ Version.IsTag raw := by
  rw [stored.path, extensionPath_inj, eq_comm]
  exact (Version.parse?_tag stored.parsed).2

/-- The name under which a version of a listed document would stand holds no slash. -/
theorem StoredAs.segment_tag (stored : StoredAs assets document raw)
    (slashless : assets.files.Slashless) :
    Path.Segment (extensionStem document.id document.version.tag ++ ".json") := by
  obtain ⟨entry, hentry⟩ := stored.listed
  have hname := slashless.of_mem_list hentry
  obtain ⟨body, htag, hbody⟩ := (Version.parse?_tag (Version.parse?_tag stored.parsed).1).2.1 rfl
  refine Path.segment_append (by decide) ⟨?_, by decide⟩
  simp only [extensionStem, String.toList_append, List.mem_append, not_or] at hname ⊢
  refine ⟨hname.1.1, ?_⟩
  rw [htag, String.toList_ofList, List.mem_cons, not_or]
  exact ⟨by decide, fun hslash => absurd (hbody '/' hslash) (by decide)⟩

/-- A file that a listed document is loaded from is listed itself. -/
theorem listed_at_tag (slashless : assets.files.Slashless)
    (listed : document ∈ assets.extensionDocuments)
    (h : assets.files.isFile (assets.extensionPath document.id document.version.tag) = true) :
    ⟨document.id, document.version, assets.extensionPath document.id document.version.tag⟩ ∈
      assets.extensionDocuments := by
  obtain ⟨raw, stored⟩ := mem_extensionDocuments_iff.1 listed
  have nonempty : assets.layout.extensionJsonDir.text ≠ "" := Path.text_child_ne_empty (by decide)
  refine mem_extensionDocuments_iff.2 ⟨document.version.tag, ?_, stored.undotted,
    (Version.parse?_tag stored.parsed).1, rfl⟩
  exact FileTree.listed_of_isFile nonempty (stored.segment_tag slashless) h

/-! ## Bundles -/

/-- Without names of its own in a bundle, a schema id starts the names that its documents have. -/
theorem jsonPath?_eq_none_of_unmapped {standard : Standard} {stem : String}
    (unmapped : assets.config.registry.fileMap = [])
    (absent : ∀ rest,
      assets.existing? (assets.jsonFile standard (stemId stem ++ rest)) = none) :
    assets.jsonPath? standard stem = none := by
  have hfile : ∀ id, assets.fileId id = id := fun id => by simp [fileId, unmapped]
  have hempty : assets.existing? (assets.jsonFile standard (stemId stem)) = none := by
    simpa using absent ""
  unfold jsonPath? storedStem
  unfold stemId at absent hempty
  cases hsplit : splitStem stem with
  | mk id tag =>
    rw [hsplit] at absent hempty
    cases tag with
    | some tag =>
      obtain ⟨rfl, undotted⟩ := splitStem_eq_iff.1 hsplit
      have hstored := absent ("." ++ tag)
      rw [← String.append_assoc] at hstored
      simp only [hfile, hstored, Option.none_or, dottedStem?, splitStem_append undotted,
        Option.bind_eq_none_iff, Option.map_eq_some_iff]
      rintro dotted ⟨numbers, -, rfl⟩
      rw [String.append_assoc]
      exact absent _
    | none =>
      have hid := splitStem_of_undotted (eq_of_splitStem hsplit).2
      simp [hfile, hempty, dottedStem?, hid]

/-- A schema id that starts like a name has no documents in a bundle that cannot be come to. -/
theorem jsonPath?_of_unreached {standard : Standard} {stem : String}
    (unmapped : assets.config.registry.fileMap = [])
    (unreached : assets.files.followAll? assets.files.work
      (assets.layout.jsonSchemaDir standard).components = none)
    (named : ∃ c, (stemId stem).toList.head? = some c ∧ c ≠ '/') :
    assets.jsonPath? standard stem = none := by
  have relative : ∀ rest : String, (⟨stemId stem ++ rest⟩ : Path).isAbsolute = false := by
    obtain ⟨c, hhead, hc⟩ := named
    intro rest
    unfold Path.isAbsolute
    rw [String.toList_append, List.head?_append, hhead]
    exact beq_eq_false_iff_ne.2 fun h => hc (Option.some.inj h)
  refine jsonPath?_eq_none_of_unmapped unmapped fun rest => ?_
  have hrest := relative (rest ++ ".json")
  rw [← String.append_assoc] at hrest
  exact if_neg (Bool.eq_false_iff.1 (FileTree.isFile_child_of_unreached unreached hrest))

/-! ## Loading -/

theorem extension?_eq (assets : Assets) (id tag : String) :
    assets.extension? id tag =
      if assets.files.isFile (assets.extensionPath id tag) then
        (assets.readJson (assets.extensionPath id tag) (extensionStem id tag)).map some
      else .ok none := by
  unfold extension? extensionOfStem? existing? extensionPath
  by_cases h : assets.files.isFile (assets.extensionFile (extensionStem id tag)) = true <;>
    simp [h]

theorem extension?_eq_none_iff :
    assets.extension? id tag = .ok none ↔
      assets.files.isFile (assets.extensionPath id tag) = false := by
  rw [extension?_eq]
  split
  · next h =>
    rw [h]
    cases assets.readJson (assets.extensionPath id tag) (extensionStem id tag) <;>
      simp [Except.map]
  · next h => simpa using h

theorem extension?_eq_some_iff {content : Json} :
    assets.extension? id tag = .ok (some content) ↔
      assets.files.isFile (assets.extensionPath id tag) = true ∧
        assets.readJson (assets.extensionPath id tag) (extensionStem id tag) = .ok content := by
  rw [extension?_eq]
  split
  · next h =>
    rw [h]
    cases assets.readJson (assets.extensionPath id tag) (extensionStem id tag) <;>
      simp [Except.map]
  · next h => simp [h]

/-- Files with the given names and texts in the extension area, and nothing else. -/
def areaFiles (rows : List (String × String)) : FileTree :=
  let dir : Place := ["assets", "oem", "json-schema"]
  ⟨[(dir.take 1, .directory), (dir.take 2, .directory), (dir, .directory)] ++
    rows.map fun row => (dir ++ [row.1], .file row.2.toUTF8), []⟩

end Assets

end ResourceModel

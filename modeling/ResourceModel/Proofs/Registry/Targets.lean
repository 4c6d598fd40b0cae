import Mathlib.Data.List.Nodup
import ResourceModel.Proofs.Output
import ResourceModel.Proofs.Path
import ResourceModel.Proofs.Registry.Emission
import ResourceModel.Proofs.Registry.SchemaIndex

set_option autoImplicit false

/-! # The paths of an emission are apart

Where the schema ids are plain words, the paths that an emission writes to stand for as many
different places below the root. -/

namespace ResourceModel

/-! ## Words -/

/-- A character of a word: a letter or digit, an underscore or a hyphen. Every character beyond the
    ASCII range counts as a letter. -/
def isWordChar (c : Char) : Bool :=
  c.isAlphanum || c = '_' || c = '-' || 128 ≤ c.toNat

/-- A plain word: one or more letters, digits, underscores and hyphens. -/
structure IsWord (text : String) : Prop where
  nonempty : text ≠ ""
  plain : ∀ c ∈ text.toList, isWordChar c = true

instance (text : String) : Decidable (IsWord text) :=
  decidable_of_iff (text ≠ "" ∧ ∀ c ∈ text.toList, isWordChar c = true)
    ⟨fun h => ⟨h.1, h.2⟩, fun h => ⟨h.nonempty, h.plain⟩⟩

theorem le_toNat_of_isWordChar {c : Char} (h : isWordChar c = true) : 32 ≤ c.toNat := by
  have hcontrol : ∀ n < 32, isWordChar (Char.ofNat n) = false := by decide
  by_contra hlow
  have hc := hcontrol c.toNat (Nat.not_le.1 hlow)
  rw [Char.ofNat_toNat, h] at hc
  cases hc

theorem IsWord.not_mem {text : String} (h : IsWord text) {c : Char}
    (hc : isWordChar c = false) : c ∉ text.toList := by
  intro hmem
  simp [h.plain c hmem] at hc

theorem escapeChar_of_isWordChar {c : Char} (h : isWordChar c = true) :
    Json.escapeChar c = [c] := by
  have hlow := le_toNat_of_isWordChar h
  have hne : ∀ d : Char, isWordChar d = false → c ≠ d := by
    rintro d hd rfl
    simp [h] at hd
  unfold Json.escapeChar
  split
  · exact absurd rfl (hne '"' (by decide))
  · exact absurd rfl (hne '\\' (by decide))
  · exact absurd rfl (hne '\n' (by decide))
  · exact absurd rfl (hne '\r' (by decide))
  · exact absurd rfl (hne '\t' (by decide))
  · rw [if_neg (by omega), if_neg (by omega), if_neg (by omega)]

theorem IsWord.plain_text {text : String} (h : IsWord text) : Index.Plain text :=
  ⟨fun c hc => escapeChar_of_isWordChar (h.plain c hc), h.not_mem (by decide)⟩

theorem IsWord.segment {text : String} (h : IsWord text) : Path.Segment text := by
  have hdot : '.' ∉ text.toList := h.not_mem (by decide)
  have hhere : text ≠ "." := by
    rintro rfl
    exact hdot (by decide)
  have hup : text ≠ ".." := by
    rintro rfl
    exact hdot (by decide)
  exact ⟨by simp [Path.component?, h.nonempty, hhere, hup], h.not_mem (by decide)⟩

namespace Index

/-! ## The parts of the paths -/

/-- The parts of the name of a standard. -/
def standardParts : Standard → List String
  | .redfish => ["redfish"]
  | .swordfish => ["redfish", "swordfish"]

theorem splitParts_standard (standard : Standard) :
    splitParts standard.name '/' = standardParts standard := by
  cases standard <;> decide

/-- The parts of the directory of a schema. -/
def schemaParts (entry : Entry) : List String :=
  standardParts entry.standard ++ [protocol, schemasDir, entry.id]

/-- The parts of the directory of the metadata documents of a standard. -/
def csdlParts (standard : Standard) : List String :=
  standardParts standard ++ [protocol, "schema"]

theorem splitParts_schemaDir {entry : Entry} (whole : '/' ∉ entry.id.toList) :
    splitParts (schemaDir entry) '/' = schemaParts entry := by
  have hprotocol : splitParts protocol '/' = [protocol] := by decide
  have hschemas : splitParts schemasDir '/' = [schemasDir] := by decide
  rw [schemaDir, splitParts_slash, splitParts_slash, splitParts_slash, splitParts_standard,
    hprotocol, hschemas, splitParts_of_not_mem whole, schemaParts]
  simp

/-- The directory of the metadata documents of a standard. -/
def csdlDir (standard : Standard) : String :=
  standard.name ++ "/" ++ protocol ++ "/" ++ "schema"

theorem csdlTarget_eq (entry : Entry) :
    csdlTarget entry = csdlDir entry.standard ++ "/" ++ Assets.csdlName entry.id := by
  have hschema : "/schema/" = "/" ++ "schema" ++ "/" := by decide
  rw [csdlTarget, csdlDir, hschema]
  simp only [String.append_assoc]

theorem splitParts_csdlDir (standard : Standard) :
    splitParts (csdlDir standard) '/' = csdlParts standard := by
  cases standard <;> decide

theorem indexTarget_eq (entry : Entry) :
    indexTarget entry = schemaDir entry ++ "/" ++ "index.json" := by
  have hindex : "/index.json" = "/" ++ "index.json" := by decide
  rw [indexTarget, hindex, String.append_assoc]

theorem documentTarget_eq (entry : Entry) :
    documentTarget entry = schemaDir entry ++ "/" ++ (entry.id ++ ".json") := by
  rw [documentTarget]
  simp only [String.append_assoc]

theorem segment_csdlName {id : String} (whole : '/' ∉ id.toList) :
    Path.Segment (Assets.csdlName id) :=
  Path.segment_append (by decide) ⟨whole, by decide⟩

theorem segment_document {id : String} (whole : '/' ∉ id.toList) :
    Path.Segment (id ++ ".json") :=
  Path.segment_append (by decide) ⟨whole, by decide⟩

theorem segment_of_named {text : String} (h : Path.component? text = some (.name text) ∧
    '/' ∉ text.toList) : Path.Segment text :=
  ⟨h.1, h.2⟩

theorem segments_standard (standard : Standard) :
    ∀ part ∈ standardParts standard, Path.Segment part := by
  have hparts : ∀ part ∈ standardParts standard,
      Path.component? part = some (.name part) ∧ '/' ∉ part.toList := by
    cases standard <;> decide
  exact fun part hpart => segment_of_named (hparts part hpart)

theorem segments_schemaParts {entry : Entry} (word : IsWord entry.id) :
    ∀ part ∈ schemaParts entry, Path.Segment part := by
  refine List.forall_mem_append.2 ⟨segments_standard entry.standard, ?_⟩
  refine List.forall_mem_cons.2 ⟨segment_of_named (by decide), ?_⟩
  exact List.forall_mem_cons.2 ⟨segment_of_named (by decide),
    List.forall_mem_singleton.2 word.segment⟩

theorem segments_csdlParts (standard : Standard) :
    ∀ part ∈ csdlParts standard, Path.Segment part := by
  refine List.forall_mem_append.2 ⟨segments_standard standard, ?_⟩
  exact List.forall_mem_cons.2 ⟨segment_of_named (by decide),
    List.forall_mem_singleton.2 (segment_of_named (by decide))⟩

/-! ## The paths of one entry -/

theorem isFilePath_entryTargets {entry : Entry} (word : IsWord entry.id) :
    ∀ path ∈ entryTargets entry, Output.IsFilePath path := by
  have whole : '/' ∉ entry.id.toList := word.segment.whole
  have hdir : ∀ part ∈ splitParts (schemaDir entry) '/', Path.Segment part :=
    (splitParts_schemaDir whole).symm ▸ segments_schemaParts word
  have hcsdl : Output.IsFilePath (csdlTarget entry) :=
    ⟨_, _, csdlTarget_eq entry,
      (splitParts_csdlDir entry.standard).symm ▸ segments_csdlParts entry.standard,
      segment_csdlName whole⟩
  have hdocument : Output.IsFilePath (documentTarget entry) :=
    ⟨_, _, documentTarget_eq entry, hdir, segment_document whole⟩
  have hindex : Output.IsFilePath (indexTarget entry) :=
    ⟨_, _, indexTarget_eq entry, hdir, segment_of_named (by decide)⟩
  refine List.forall_mem_cons.2 ⟨hcsdl, ?_⟩
  unfold documentTargets
  cases entry.origin with
  | bundle => exact List.forall_mem_cons.2 ⟨hdocument, List.forall_mem_singleton.2 hindex⟩
  | extension => exact List.forall_mem_singleton.2 hindex

theorem splitParts_csdlTarget {entry : Entry} (word : IsWord entry.id) :
    splitParts (csdlTarget entry) '/' =
      csdlParts entry.standard ++ [Assets.csdlName entry.id] := by
  rw [csdlTarget_eq, splitParts_slash, splitParts_csdlDir,
    (segment_csdlName word.segment.whole).splitParts_eq]

theorem splitParts_documentTarget {entry : Entry} (word : IsWord entry.id) :
    splitParts (documentTarget entry) '/' = schemaParts entry ++ [entry.id ++ ".json"] := by
  rw [documentTarget_eq, splitParts_slash, splitParts_schemaDir word.segment.whole,
    (segment_document word.segment.whole).splitParts_eq]

theorem splitParts_indexTarget {entry : Entry} (word : IsWord entry.id) :
    splitParts (indexTarget entry) '/' = schemaParts entry ++ ["index.json"] := by
  rw [indexTarget_eq, splitParts_slash, splitParts_schemaDir word.segment.whole,
    splitParts_of_not_mem (by decide)]

theorem mem_entryTargets {entry : Entry} {path : String} (h : path ∈ entryTargets entry) :
    path = csdlTarget entry ∨ path = documentTarget entry ∨ path = indexTarget entry := by
  unfold entryTargets documentTargets at h
  cases horigin : entry.origin with
  | bundle => simpa [horigin] using h
  | extension =>
    rw [horigin] at h
    exact (List.mem_pair.1 h).imp id Or.inr

/-- The parts of the paths of an entry. -/
theorem splitParts_of_mem_entryTargets {entry : Entry} (word : IsWord entry.id) {path : String}
    (h : path ∈ entryTargets entry) :
    splitParts path '/' = csdlParts entry.standard ++ [Assets.csdlName entry.id] ∨
      ∃ name, splitParts path '/' = schemaParts entry ++ [name] := by
  rcases mem_entryTargets h with rfl | rfl | rfl
  · exact Or.inl (splitParts_csdlTarget word)
  · exact Or.inr ⟨_, splitParts_documentTarget word⟩
  · exact Or.inr ⟨_, splitParts_indexTarget word⟩

/-- Entries of different schemas have no path in common. -/
theorem id_eq_of_mem_entryTargets {first second : Entry} (hfirst : IsWord first.id)
    (hsecond : IsWord second.id) {path : String} (h : path ∈ entryTargets first)
    (h' : path ∈ entryTargets second) : first.id = second.id := by
  have csdl_ne_schema : ∀ (standard : Standard) (entry : Entry) (file name : String),
      csdlParts standard ++ [file] ≠ schemaParts entry ++ [name] := by
    intro standard entry file name
    unfold csdlParts schemaParts
    cases standard <;> cases entry.standard <;> simp [standardParts, protocol, schemasDir]
  rcases splitParts_of_mem_entryTargets hfirst h with hparts | ⟨name, hparts⟩ <;>
    rcases splitParts_of_mem_entryTargets hsecond h' with hparts' | ⟨name', hparts'⟩
  · have hlast := (List.append_inj' (hparts.symm.trans hparts') rfl).2
    exact (String.append_left_inj _).1 (List.singleton_inj.1 hlast)
  · exact absurd (hparts.symm.trans hparts') (csdl_ne_schema _ _ _ _)
  · exact absurd (hparts'.symm.trans hparts) (csdl_ne_schema _ _ _ _)
  · have hdirs := (List.append_inj' (hparts.symm.trans hparts') rfl).1
    have hid : (schemaParts first).getLast? = (schemaParts second).getLast? := by rw [hdirs]
    simpa [schemaParts] using hid

/-- The paths of an entry are different. -/
theorem nodup_entryTargets {entry : Entry} (word : IsWord entry.id) (other : entry.id ≠ "index") :
    (entryTargets entry).Nodup := by
  have hlength : ∀ name, (csdlParts entry.standard ++ [Assets.csdlName entry.id]) ≠
      schemaParts entry ++ [name] := by
    intro name h
    have := congrArg List.length h
    simp [csdlParts, schemaParts] at this
  have hdocument : csdlTarget entry ≠ documentTarget entry := fun h =>
    hlength _ ((splitParts_csdlTarget word).symm.trans
      ((congrArg (splitParts · '/') h).trans (splitParts_documentTarget word)))
  have hindex : csdlTarget entry ≠ indexTarget entry := fun h =>
    hlength _ ((splitParts_csdlTarget word).symm.trans
      ((congrArg (splitParts · '/') h).trans (splitParts_indexTarget word)))
  have hboth : documentTarget entry ≠ indexTarget entry := by
    rw [documentTarget_eq, indexTarget_eq]
    intro h
    have hname : entry.id ++ ".json" = "index" ++ ".json" :=
      (String.append_right_inj _).1 h
    exact other ((String.append_left_inj _).1 hname)
  unfold entryTargets documentTargets
  cases entry.origin with
  | bundle => simp [hdocument, hindex, hboth]
  | extension => simp [hindex]

theorem isFilePath_of_named {dir name : String}
    (dirs : ∀ part ∈ splitParts dir '/',
      Path.component? part = some (.name part) ∧ '/' ∉ part.toList)
    (file : Path.component? name = some (.name name) ∧ '/' ∉ name.toList) :
    Output.IsFilePath (dir ++ "/" ++ name) :=
  ⟨dir, name, rfl, fun part hpart => segment_of_named (dirs part hpart), segment_of_named file⟩

theorem isFilePath_indexes :
    ∀ path ∈ [metadataTarget, collectionTarget], Output.IsFilePath path := by
  have hmetadata : metadataTarget = "redfish/v1/$metadata" ++ "/" ++ "index.xml" := by decide
  have hcollection : collectionTarget = "redfish/v1/JsonSchemas" ++ "/" ++ "index.json" := by
    decide
  refine List.forall_mem_cons.2 ⟨?_, List.forall_mem_singleton.2 ?_⟩
  · rw [hmetadata]
    exact isFilePath_of_named (by decide) (by decide)
  · rw [hcollection]
    exact isFilePath_of_named (by decide) (by decide)

/-! ## The paths of a registry -/

theorem isFilePath_targets {registry : Registry}
    (words : ∀ entry ∈ Table.values registry.entries, IsWord entry.id) :
    ∀ path ∈ targets registry, Output.IsFilePath path := by
  refine List.forall_mem_append.2 ⟨fun path hpath => ?_, isFilePath_indexes⟩
  obtain ⟨entry, hentry, hmem⟩ := List.mem_flatMap.1 hpath
  exact isFilePath_entryTargets (words entry hentry) path hmem

/-- The two indexes are no files of a schema. -/
theorem not_mem_entryTargets {entry : Entry} (word : IsWord entry.id) {path : String}
    (h : path ∈ [metadataTarget, collectionTarget]) : path ∉ entryTargets entry := by
  have hmetadata : splitParts metadataTarget '/' = ["redfish", "v1", "$metadata", "index.xml"] := by
    decide
  have hcollection : splitParts collectionTarget '/' =
      ["redfish", "v1", "JsonSchemas", "index.json"] := by
    decide
  intro hmem
  have hparts := splitParts_of_mem_entryTargets word hmem
  unfold csdlParts schemaParts at hparts
  generalize entry.standard = standard at hparts
  rcases List.mem_pair.1 h with rfl | rfl
  · rw [hmetadata] at hparts
    cases standard <;> simp [standardParts, protocol, schemasDir] at hparts
  · rw [hcollection] at hparts
    cases standard <;> simp [standardParts, protocol, schemasDir] at hparts

/-- An emission writes to no path twice. -/
theorem nodup_targets {registry : Registry}
    (ids : (Table.values registry.entries).Pairwise fun a b => a.id ≠ b.id)
    (words : ∀ entry ∈ Table.values registry.entries, IsWord entry.id ∧ entry.id ≠ "index") :
    (targets registry).Nodup := by
  have hends : [metadataTarget, collectionTarget].Nodup := by decide
  have hentries : ((Table.values registry.entries).flatMap entryTargets).Nodup := by
    refine List.nodup_flatMap.2 ⟨fun entry hentry =>
      nodup_entryTargets (words entry hentry).1 (words entry hentry).2, ?_⟩
    refine ids.imp_of_mem fun {first second} hfirst hsecond hne => ?_
    refine List.disjoint_left.2 fun path h h' => hne ?_
    exact id_eq_of_mem_entryTargets (words first hfirst).1 (words second hsecond).1 h h'
  refine List.nodup_append'.2 ⟨hentries, hends, List.disjoint_left.2 fun path hpath hend => ?_⟩
  obtain ⟨entry, hentry, hmem⟩ := List.mem_flatMap.1 hpath
  exact not_mem_entryTargets (words entry hentry).1 hend hmem

end Index

end ResourceModel

import ResourceModel.Proofs.Xml
import ResourceModel.Registry.Index

set_option autoImplicit false

/-! # The metadata index reads back

The metadata index is well-formed, and reading it gives one reference for each of the given entries,
in their order, with the namespaces that were given for it. -/

namespace ResourceModel.Index

/-! ## Reading references -/

/-- A text with the entities of the markup replaced by the characters that they stand for. -/
def unescape : List Char → List Char
  | '&' :: 'l' :: 't' :: ';' :: rest => '<' :: unescape rest
  | '&' :: 'g' :: 't' :: ';' :: rest => '>' :: unescape rest
  | '&' :: 'a' :: 'm' :: 'p' :: ';' :: rest => '&' :: unescape rest
  | '&' :: 'a' :: 'p' :: 'o' :: 's' :: ';' :: rest => '\'' :: unescape rest
  | '&' :: 'q' :: 'u' :: 'o' :: 't' :: ';' :: rest => '"' :: unescape rest
  | c :: rest => c :: unescape rest
  | [] => []

/-- A reference of a metadata index: the place of a metadata document and the namespaces that are
    included from it. -/
structure DocumentReference where
  uri : String
  namespaces : List String
  deriving DecidableEq, Repr

/-- The value of an attribute of a tag. -/
def attribute? (content : List Char) (name : String) : Option String :=
  ((Xml.attributes content).lookup name.toList).map fun value => String.ofList (unescape value)

/-- The namespace that a tag includes. -/
def included? : Xml.Tag → Option String
  | .empty content =>
    if Xml.localName (Xml.nameOf content) = "Include".toList then attribute? content "Namespace"
    else none
  | _ => none

/-- Whether a tag ends an element. -/
def isEnd : Xml.Tag → Bool
  | .closing _ => true
  | _ => false

/-- The references among the tags of a metadata index, each with the namespaces that are included
    before an element ends. -/
def referencesOf : List Xml.Tag → List DocumentReference
  | [] => []
  | .opening content :: rest =>
    if Xml.localName (Xml.nameOf content) = "Reference".toList then
      ⟨(attribute? content "Uri").getD "",
        (rest.takeWhile fun tag => !isEnd tag).filterMap included?⟩ :: referencesOf rest
    else referencesOf rest
  | _ :: rest => referencesOf rest

/-- The references of a metadata index, if it is well-formed. -/
def references? (text : String) : Option (List DocumentReference) :=
  (Xml.tags text.toList).map referencesOf

/-! ## Escaped texts -/

theorem unescape_cons {c : Char} (h : c ≠ '&') (rest : List Char) :
    unescape (c :: rest) = c :: unescape rest := by
  rw [unescape]
  all_goals
    intro _ hc
    exact absurd hc h

theorem unescape_append {text : List Char} (h : '&' ∉ text) (rest : List Char) :
    unescape (text ++ rest) = text ++ unescape rest := by
  induction text with
  | nil => rfl
  | cons c text ih =>
    simp only [List.mem_cons, not_or] at h
    rw [List.cons_append, unescape_cons (Ne.symm h.1), ih h.2, List.cons_append]

theorem unescape_escapeChar (c : Char) (rest : List Char) :
    unescape ((escapeChar c).toList ++ rest) = c :: unescape rest := by
  unfold escapeChar
  split
  · next h => subst h; rfl
  · split
    · next h => subst h; rfl
    · split
      · next h => subst h; rfl
      · next hplain =>
        split
        · next h => subst h; rfl
        · split
          · next h => subst h; rfl
          · rw [String.toList_singleton, List.singleton_append, unescape_cons hplain]

theorem toList_escape (text : String) :
    (escape text).toList = text.toList.flatMap fun c => (escapeChar c).toList := by
  rw [escape, String.toList_join, List.flatMap_map]

/-- An escaped text is read as it was. -/
theorem unescape_escape (text : String) : unescape (escape text).toList = text.toList := by
  rw [toList_escape]
  induction text.toList with
  | nil => rfl
  | cons c rest ih => rw [List.flatMap_cons, unescape_escapeChar, ih]

theorem not_mem_escapeChar (c : Char) :
    ∀ special ∈ ['"', '\'', '<', '>'], special ∉ (escapeChar c).toList := by
  unfold escapeChar
  split
  · decide
  · next hless =>
    split
    · decide
    · next hgreater =>
      split
      · decide
      · split
        · decide
        · next hmark =>
          split
          · decide
          · next hquote =>
            intro special hspecial hmem
            rw [String.toList_singleton, List.mem_singleton] at hmem
            subst hmem
            simp [hquote, hmark, hless, hgreater] at hspecial

theorem not_mem_escape (text : String) :
    ∀ special ∈ ['"', '\'', '<', '>'], special ∉ (escape text).toList := by
  intro special hspecial hmem
  rw [toList_escape] at hmem
  obtain ⟨c, -, hc⟩ := List.mem_flatMap.1 hmem
  exact not_mem_escapeChar c special hspecial hc

/-! ## The lines of the metadata index -/

/-- The attributes of the tag that includes a namespace. -/
def includeRows (settings : RegistrySettings) (namespaceName : String) :
    List (List Char × List Char) :=
  let named := ("Namespace".toList, (escape namespaceName).toList)
  if namespaceName = settings.aliasNamespace then
    [named, ("Alias".toList, (escape settings.aliasName).toList)]
  else [named]

/-- The attributes of the tag that refers to the metadata document of a schema. -/
def referenceRows (entry : Entry) : List (List Char × List Char) :=
  [("Uri".toList, ("/" ++ entry.standard.name ++ "/" ++ protocol ++ "/schema/" ++
    escape (Assets.csdlName entry.id)).toList)]

/-- The line of the tag that includes a namespace. -/
def includeTagLine (settings : RegistrySettings) (namespaceName : String) :
    List Char × Xml.Tag :=
  ("    ".toList, .empty (Xml.content "edmx:Include".toList (includeRows settings namespaceName)))

/-- The lines of the tags that refer to the metadata document of a schema. -/
def referenceTagLines (settings : RegistrySettings) (entry : Entry) (namespaces : List String) :
    List (List Char × Xml.Tag) :=
  ("  ".toList, .opening (Xml.content "edmx:Reference".toList (referenceRows entry))) ::
    (namespaces.map (includeTagLine settings) ++ [("  ".toList, .closing "edmx:Reference".toList)])

theorem toList_includeLine (settings : RegistrySettings) (namespaceName : String) :
    (includeLine settings namespaceName).toList =
      Xml.lineText (includeTagLine settings namespaceName) := by
  unfold includeLine includeTagLine includeRows
  split
  · simp [Xml.lineText, Xml.tagText, Xml.content, Xml.attributeText]
  · simp [Xml.lineText, Xml.tagText, Xml.content, Xml.attributeText]

theorem toList_referenceLines (settings : RegistrySettings) (entry : Entry)
    (namespaces : List String) :
    (referenceLines settings entry namespaces).toList =
      (referenceTagLines settings entry namespaces).flatMap Xml.lineText := by
  have hincludes : (String.join (namespaces.map (includeLine settings))).toList =
      (namespaces.map (includeTagLine settings)).flatMap Xml.lineText := by
    rw [String.toList_join, List.flatMap_map, List.flatMap_map]
    exact List.flatMap_congr fun name _ => toList_includeLine settings name
  unfold referenceLines referenceTagLines
  rw [List.flatMap_cons, List.flatMap_append, ← hincludes]
  simp [Xml.lineText, Xml.tagText, Xml.content, Xml.attributeText, referenceRows]

/-- The lines of the tags of the metadata index. -/
def metadataTagLines (settings : RegistrySettings) (rows : List (Entry × List String)) :
    List (List Char × Xml.Tag) :=
  ([], .opening (Xml.content "edmx:Edmx".toList
      [("xmlns:edmx".toList, "http://docs.oasis-open.org/odata/ns/edmx".toList),
        ("Version".toList, "4.0".toList)])) ::
    (rows.flatMap (fun row => referenceTagLines settings row.1 row.2) ++
      [([], .closing "edmx:Edmx".toList)])

theorem toList_metadata (settings : RegistrySettings) (rows : List (Entry × List String)) :
    (metadata (rows.map fun row => referenceLines settings row.1 row.2)).toList =
      '<' :: ("?xml version=\"1.0\" encoding=\"utf-8\"?>".toList ++
        (['\n'] ++ (metadataTagLines settings rows).flatMap Xml.lineText)) := by
  have hreferences : (String.join (rows.map fun row => referenceLines settings row.1 row.2)).toList =
      (rows.flatMap fun row => referenceTagLines settings row.1 row.2).flatMap Xml.lineText := by
    rw [String.toList_join, List.flatMap_map, List.flatMap_assoc]
    exact List.flatMap_congr fun row _ => toList_referenceLines settings row.1 row.2
  unfold metadata metadataTagLines
  rw [List.flatMap_cons, List.flatMap_append, ← hreferences]
  simp [Xml.lineText, Xml.tagText, Xml.content, Xml.attributeText]

/-- The first line of the metadata index is no tag. -/
theorem construct?_instruction (rest : List Char) :
    Xml.construct? ("?xml version=\"1.0\" encoding=\"utf-8\"?>".toList ++ rest) =
      some (none, rest) := by
  simp [Xml.construct?, Xml.afterEnding?, Text.after?]

/-! ## The tags of the metadata index -/

theorem isName_of_plain {name : String} (h : name.toList ≠ [] ∧
      (∀ c ∈ name.toList, Xml.isGap c = false) ∧
      ∀ c ∈ ['=', '"', '\'', '<', '>', '/', '!', '?'], c ∉ name.toList) :
    Xml.IsName name.toList :=
  ⟨h.1, h.2.1, h.2.2⟩

theorem isName_edmx : Xml.IsName "edmx:Edmx".toList := isName_of_plain (by decide)

theorem isName_reference : Xml.IsName "edmx:Reference".toList := isName_of_plain (by decide)

theorem isName_include : Xml.IsName "edmx:Include".toList := isName_of_plain (by decide)

theorem isAttribute_includeRows (settings : RegistrySettings) (namespaceName : String) :
    ∀ row ∈ includeRows settings namespaceName, Xml.IsAttribute row := by
  have hnamespace : Xml.IsName "Namespace".toList := isName_of_plain (by decide)
  have halias : Xml.IsName "Alias".toList := isName_of_plain (by decide)
  have hnamed : Xml.IsAttribute ("Namespace".toList, (escape namespaceName).toList) :=
    ⟨hnamespace, not_mem_escape namespaceName⟩
  unfold includeRows
  split
  · exact List.forall_mem_cons.2 ⟨hnamed,
      List.forall_mem_singleton.2 ⟨halias, not_mem_escape settings.aliasName⟩⟩
  · exact List.forall_mem_singleton.2 hnamed

theorem nodup_includeRows (settings : RegistrySettings) (namespaceName : String) :
    ((includeRows settings namespaceName).map Prod.fst).Nodup := by
  have hnames : ["Namespace".toList, "Alias".toList].Nodup := by decide
  unfold includeRows
  split
  · exact hnames
  · simp

theorem isAttribute_referenceRows (entry : Entry) :
    ∀ row ∈ referenceRows entry, Xml.IsAttribute row := by
  have huri : Xml.IsName "Uri".toList := isName_of_plain (by decide)
  have hstandard : ∀ special ∈ ['"', '\'', '<', '>'], special ∉ entry.standard.name.toList := by
    cases entry.standard <;> decide
  have hplain : ∀ special ∈ ['"', '\'', '<', '>'],
      special ∉ "/".toList ∧ special ∉ protocol.toList ∧ special ∉ "/schema/".toList := by
    decide
  refine List.forall_mem_singleton.2 ⟨huri, fun special h => ?_⟩
  obtain ⟨hslash, hversion, hdir⟩ := hplain special h
  simp only [String.toList_append, List.mem_append, not_or]
  exact ⟨⟨⟨⟨⟨hslash, hstandard special h⟩, hslash⟩, hversion⟩, hdir⟩, not_mem_escape _ special h⟩

theorem written_referenceTagLines (settings : RegistrySettings) (entry : Entry)
    (namespaces : List String) :
    ∀ line ∈ referenceTagLines settings entry namespaces, '<' ∉ line.1 ∧ Xml.Written line.2 := by
  have hinclude : ∀ line ∈ namespaces.map (includeTagLine settings),
      '<' ∉ line.1 ∧ Xml.Written line.2 := by
    intro line hline
    obtain ⟨name, -, rfl⟩ := List.mem_map.1 hline
    exact ⟨show '<' ∉ "    ".toList by decide,
      .empty isName_include (isAttribute_includeRows settings name)⟩
  have hblanks : '<' ∉ "  ".toList := by decide
  refine List.forall_mem_cons.2 ⟨⟨hblanks, .opening isName_reference
    (isAttribute_referenceRows entry) (List.cons_ne_nil _ _)⟩, ?_⟩
  exact List.forall_mem_append.2 ⟨hinclude,
    List.forall_mem_singleton.2 ⟨hblanks, .closing isName_reference⟩⟩

theorem written_metadataTagLines (settings : RegistrySettings)
    (rows : List (Entry × List String)) :
    ∀ line ∈ metadataTagLines settings rows, '<' ∉ line.1 ∧ Xml.Written line.2 := by
  have hschema : Xml.IsAttribute ("xmlns:edmx".toList,
      "http://docs.oasis-open.org/odata/ns/edmx".toList) :=
    ⟨isName_of_plain (by decide), by decide⟩
  have hversion : Xml.IsAttribute ("Version".toList, "4.0".toList) :=
    ⟨isName_of_plain (by decide), by decide⟩
  refine List.forall_mem_cons.2 ⟨⟨List.not_mem_nil, .opening isName_edmx
    (List.forall_mem_cons.2 ⟨hschema, List.forall_mem_singleton.2 hversion⟩)
    (List.cons_ne_nil _ _)⟩, ?_⟩
  refine List.forall_mem_append.2 ⟨fun line hline => ?_,
    List.forall_mem_singleton.2 ⟨List.not_mem_nil, .closing isName_edmx⟩⟩
  obtain ⟨row, -, hmem⟩ := List.mem_flatMap.1 hline
  exact written_referenceTagLines settings row.1 row.2 line hmem

/-- After a reference the same elements are open as before it. -/
theorem opens_referenceTagLines (settings : RegistrySettings) (entry : Entry)
    (namespaces : List String) (names : List (List Char)) :
    ((referenceTagLines settings entry namespaces).map Prod.snd).foldlM Xml.openAfter? names =
      some names := by
  have hopens : Xml.openAfter? names
      (.opening (Xml.content "edmx:Reference".toList (referenceRows entry))) =
        some ("edmx:Reference".toList :: names) := by
    rw [Xml.openAfter?, Xml.nameOf_content isName_reference]
  have hincludes : ∀ open' : List (List Char),
      ((namespaces.map (includeTagLine settings)).map Prod.snd).foldlM Xml.openAfter? open' =
        some open' := by
    intro open'
    induction namespaces with
    | nil => rfl
    | cons name rest ih => exact ih
  rw [referenceTagLines, List.map_cons, List.foldlM_cons, hopens, Option.bind_eq_bind,
    Option.bind_some, List.map_append, List.foldlM_append, hincludes]
  simp [Xml.openAfter?]

theorem opens_metadataTagLines (settings : RegistrySettings) (rows : List (Entry × List String)) :
    ((metadataTagLines settings rows).map Prod.snd).foldlM Xml.openAfter? [] = some [] := by
  have hreferences : ∀ names : List (List Char),
      ((rows.flatMap fun row => referenceTagLines settings row.1 row.2).map Prod.snd).foldlM
        Xml.openAfter? names = some names := by
    intro names
    induction rows with
    | nil => rfl
    | cons row rest ih =>
      rw [List.flatMap_cons, List.map_append, List.foldlM_append, opens_referenceTagLines]
      exact ih
  rw [metadataTagLines, List.map_cons, List.foldlM_cons, Xml.openAfter?,
    Xml.nameOf_content isName_edmx, Option.bind_eq_bind, Option.bind_some, List.map_append,
    List.foldlM_append, hreferences]
  simp [Xml.openAfter?]

/-- The metadata index is well-formed: its tags are those of its lines. -/
theorem tags_metadata (settings : RegistrySettings) (rows : List (Entry × List String)) :
    Xml.tags (metadata (rows.map fun row => referenceLines settings row.1 row.2)).toList =
      some ((metadataTagLines settings rows).map Prod.snd) := by
  have hlength := Xml.length_le_flatMap (metadataTagLines settings rows) fun line =>
    (show Xml.lineText line ≠ [] by simp [Xml.lineText])
  rw [toList_metadata]
  unfold Xml.tags
  rw [Xml.tagsFrom, Text.cut?, if_pos rfl]
  simp only [construct?_instruction]
  refine Xml.tagsFrom_lines ?_ (written_metadataTagLines settings rows)
    (opens_metadataTagLines settings rows) (by decide)
  simp only [List.length_cons, List.length_append]
  omega

/-! ## The references of the metadata index -/

theorem attribute?_namespace (settings : RegistrySettings) (namespaceName : String) :
    attribute? (Xml.content "edmx:Include".toList (includeRows settings namespaceName))
      "Namespace" = some namespaceName := by
  have hfirst : (includeRows settings namespaceName).lookup "Namespace".toList =
      some (escape namespaceName).toList := by
    unfold includeRows
    split <;> rw [List.lookup_cons_self]
  rw [attribute?, Xml.attributes_content isName_include
    (isAttribute_includeRows settings namespaceName) (nodup_includeRows settings namespaceName),
    hfirst, Option.map_some, unescape_escape, String.ofList_toList]

theorem attribute?_uri (entry : Entry) :
    attribute? (Xml.content "edmx:Reference".toList (referenceRows entry)) "Uri" =
      some ("/" ++ csdlTarget entry) := by
  have hplain : '&' ∉ ("/" ++ entry.standard.name ++ "/" ++ protocol ++ "/schema/").toList := by
    cases entry.standard <;> decide
  rw [attribute?, Xml.attributes_content isName_reference (isAttribute_referenceRows entry)
    (by simp [referenceRows]), referenceRows, List.lookup_cons_self, Option.map_some,
    String.toList_append, unescape_append hplain, unescape_escape, ← String.toList_append,
    String.ofList_toList]
  simp only [csdlTarget, String.append_assoc]

theorem included?_includeTagLine (settings : RegistrySettings) (namespaceName : String) :
    included? (includeTagLine settings namespaceName).2 = some namespaceName := by
  have hname : Xml.localName "edmx:Include".toList = "Include".toList := by decide
  rw [includeTagLine, included?, Xml.nameOf_content isName_include, if_pos hname,
    attribute?_namespace]

/-- Outside an element that refers to a document nothing is included. -/
theorem referencesOf_includes (settings : RegistrySettings) (namespaces : List String)
    (rest : List Xml.Tag) :
    referencesOf ((namespaces.map (includeTagLine settings)).map Prod.snd ++ rest) =
      referencesOf rest := by
  induction namespaces with
  | nil => rfl
  | cons name others ih => exact ih

theorem referencesOf_referenceTagLines (settings : RegistrySettings) (entry : Entry)
    (namespaces : List String) (rest : List Xml.Tag) :
    referencesOf ((referenceTagLines settings entry namespaces).map Prod.snd ++ rest) =
      ⟨"/" ++ csdlTarget entry, namespaces⟩ :: referencesOf rest := by
  have hname : Xml.localName "edmx:Reference".toList = "Reference".toList := by decide
  let includes := (namespaces.map (includeTagLine settings)).map Prod.snd
  let after := .closing "edmx:Reference".toList :: rest
  have hincluded : includes.filterMap included? = namespaces := by
    simp only [includes, List.map_map, List.filterMap_map, Function.comp_def,
      included?_includeTagLine, List.filterMap_some]
  have hnot : ∀ tag ∈ includes, (!isEnd tag) = true := by
    intro tag htag
    obtain ⟨line, hline, rfl⟩ := List.mem_map.1 htag
    obtain ⟨name, -, rfl⟩ := List.mem_map.1 hline
    rfl
  have htaken : (includes ++ after).takeWhile (fun tag => !isEnd tag) = includes := by
    rw [List.takeWhile_append_of_pos hnot]
    simp [after, isEnd]
  have hskipped : referencesOf (includes ++ after) = referencesOf rest := by
    rw [referencesOf_includes]
    rfl
  have htags : (referenceTagLines settings entry namespaces).map Prod.snd ++ rest =
      .opening (Xml.content "edmx:Reference".toList (referenceRows entry)) ::
        (includes ++ after) := by
    simp [referenceTagLines, includes, after]
  rw [htags, referencesOf, Xml.nameOf_content isName_reference, if_pos hname, attribute?_uri, htaken,
    hincluded, hskipped]
  rfl

/-- The metadata index has one reference for each entry, in the order of the entries, with the
    namespaces of its document. -/
theorem references?_metadata (settings : RegistrySettings) (rows : List (Entry × List String)) :
    references? (metadata (rows.map fun row => referenceLines settings row.1 row.2)) =
      some (rows.map fun row => ⟨"/" ++ csdlTarget row.1, row.2⟩) := by
  have hreferences : ∀ rest : List Xml.Tag,
      referencesOf ((rows.flatMap fun row => referenceTagLines settings row.1 row.2).map Prod.snd ++
        rest) = (rows.map fun row => ⟨"/" ++ csdlTarget row.1, row.2⟩) ++ referencesOf rest := by
    intro rest
    induction rows with
    | nil => rfl
    | cons row others ih =>
      rw [List.flatMap_cons, List.map_append, List.append_assoc, referencesOf_referenceTagLines, ih]
      rfl
  have hname : Xml.localName "edmx:Edmx".toList ≠ "Reference".toList := by decide
  rw [references?, tags_metadata, Option.map_some, metadataTagLines, List.map_cons, List.map_append,
    referencesOf, Xml.nameOf_content isName_edmx, if_neg hname, hreferences]
  simp [referencesOf]

end ResourceModel.Index

import ResourceModel.Node.Declaration
import ResourceModel.Proofs.Path

set_option autoImplicit false

/-! # Which documents declare a node

A document declares a node if it is a mapping with one key, which is the name of the node, with
`@dynamic` behind it if the node is dynamic. Whatever else a document holds is an error that names
the place where the document comes from. -/

namespace ResourceModel.NodeDeclaration

/-! ## The grammar -/

/-- Whether a text can be the name of a node: it is not empty and has no `@`. -/
structure IsName (name : String) : Prop where
  named : name ≠ ""
  whole : '@' ∉ name.toList

/-- The key that declares the node of a name. -/
def keyOf (name : String) (dynamic : Bool) : String :=
  if dynamic then name ++ "@dynamic" else name

/-- The document that holds a declaration and nothing else. -/
def toDocument (declaration : NodeDeclaration) : Json :=
  .object [(keyOf declaration.key declaration.dynamic, declaration.body)]

/-- What is wrong with a key that declares no node. A kind of nodes that is not known is told before
    a name that is missing. -/
inductive KeyFlaw : String → Defect → Prop where
  | unnamed (dynamic : Bool) : KeyFlaw (keyOf "" dynamic) .emptyKey
  | unknownKind {name kind : String} (whole : '@' ∉ name.toList) (plain : '@' ∉ kind.toList)
      (unknown : kind ≠ "dynamic") : KeyFlaw (name ++ "@" ++ kind) (.unknownNodeKind kind)
  | several {key : String} (several : 2 ≤ key.toList.count '@') : KeyFlaw key (.invalidKey key)

/-- What is wrong with a document that declares no node. -/
inductive Flaw : Json → Defect → Prop where
  | notMapping {document : Json} (other : document.object? = none) :
      Flaw document .documentNotMapping
  | count {rows : Table Json} (other : rows.length ≠ 1) :
      Flaw (.object rows) (.nodeCount rows.length)
  | key {key : String} {body : Json} {defect : Defect} (flaw : KeyFlaw key defect) :
      Flaw (.object [(key, body)]) defect

/-! ## Keys -/

theorem splitParts_at {name kind : String} (whole : '@' ∉ name.toList) (plain : '@' ∉ kind.toList) :
    splitParts (name ++ "@" ++ kind) '@' = [name, kind] := by
  have hchars : (name ++ "@" ++ kind).toList = name.toList ++ '@' :: kind.toList := by simp
  unfold splitParts
  rw [hchars, Text.parts_append, Text.parts_of_not_mem whole, Text.parts_of_not_mem plain]
  simp

theorem splitKey_of_whole {name : String} (whole : '@' ∉ name.toList) :
    splitKey name = if name = "" then .error .emptyKey else .ok (name, false) := by
  unfold splitKey
  rw [splitParts_of_not_mem whole]

theorem splitKey_of_kind {name kind : String} (whole : '@' ∉ name.toList)
    (plain : '@' ∉ kind.toList) :
    splitKey (name ++ "@" ++ kind) =
      if kind = "dynamic" then if name = "" then .error .emptyKey else .ok (name, true)
      else .error (.unknownNodeKind kind) := by
  unfold splitKey
  rw [splitParts_at whole plain]
  rfl

theorem keyOf_true (name : String) : keyOf name true = name ++ "@" ++ "dynamic" := by
  rw [String.append_assoc]
  rfl

theorem splitKey_keyOf {name : String} (whole : '@' ∉ name.toList) (dynamic : Bool) :
    splitKey (keyOf name dynamic) =
      if name = "" then .error .emptyKey else .ok (name, dynamic) := by
  cases dynamic with
  | false => exact splitKey_of_whole whole
  | true => rw [keyOf_true, splitKey_of_kind whole (by decide), if_pos rfl]

theorem KeyFlaw.splitKey_eq {key : String} {defect : Defect} (h : KeyFlaw key defect) :
    splitKey key = .error defect := by
  cases h with
  | unnamed dynamic => exact splitKey_keyOf (by decide) dynamic
  | unknownKind whole plain unknown => rw [splitKey_of_kind whole plain, if_neg unknown]
  | several several =>
    -- Two `@` make three parts, which is more than a name and a kind.
    have three : 3 ≤ (splitParts key '@').length := by
      rw [splitParts, List.length_map, Text.length_parts]
      omega
    unfold splitKey
    split
    · next hparts => simp [hparts] at three
    · next hparts => simp [hparts] at three
    · rfl

/-- With one `@` in it a key has a name before it and a kind behind it. -/
theorem exists_kind {key : String} (one : key.toList.count '@' = 1) :
    ∃ name kind, '@' ∉ name.toList ∧ '@' ∉ kind.toList ∧ key = name ++ "@" ++ kind := by
  obtain ⟨name, kind, hkey, hname⟩ :=
    List.eq_append_cons_of_mem (List.count_pos_iff.1 (one ▸ Nat.one_pos))
  -- The first `@` is the only one, so there is none in what stands behind it.
  have hkind : '@' ∉ kind := by
    rw [hkey, List.count_append, List.count_cons_self, List.count_eq_zero.2 hname] at one
    exact List.count_eq_zero.1 (by omega)
  refine ⟨String.ofList name, String.ofList kind, by simpa using hname, by simpa using hkind, ?_⟩
  apply String.toList_injective
  simp [hkey]

theorem isName_or_flaw {name : String} (whole : '@' ∉ name.toList) (dynamic : Bool) :
    IsName name ∨ KeyFlaw (keyOf name dynamic) .emptyKey := by
  by_cases hempty : name = ""
  · subst hempty
    exact Or.inr (.unnamed dynamic)
  · exact Or.inl ⟨hempty, whole⟩

theorem isKey_or_flaw (key : String) :
    (∃ name dynamic, IsName name ∧ key = keyOf name dynamic) ∨ ∃ defect, KeyFlaw key defect := by
  rcases Nat.lt_trichotomy (key.toList.count '@') 1 with absent | one | several
  · have whole : '@' ∉ key.toList := List.count_eq_zero.1 (Nat.lt_one_iff.1 absent)
    rcases isName_or_flaw whole false with hname | hflaw
    · exact Or.inl ⟨key, false, hname, rfl⟩
    · exact Or.inr ⟨_, hflaw⟩
  · obtain ⟨name, kind, whole, plain, rfl⟩ := exists_kind one
    by_cases known : kind = "dynamic"
    · rw [known, ← keyOf_true]
      rcases isName_or_flaw whole true with hname | hflaw
      · exact Or.inl ⟨name, true, hname, rfl⟩
      · exact Or.inr ⟨_, hflaw⟩
    · exact Or.inr ⟨_, .unknownKind whole plain known⟩
  · exact Or.inr ⟨_, .several several⟩

/-! ## Documents -/

theorem parse_toDocument {declaration : NodeDeclaration} (h : IsName declaration.key)
    (origin : String) : parse declaration.toDocument origin = .ok declaration := by
  unfold parse toDocument
  simp only [splitKey_keyOf h.whole, if_neg h.named]

theorem Flaw.parse_eq {document : Json} {defect : Defect} (h : Flaw document defect)
    (origin : String) : parse document origin = .error (.malformed origin defect) := by
  cases h with
  | notMapping other =>
    cases document with
    | object rows => cases other
    | null | bool | number | string | array => rfl
  | @count rows other =>
    match rows, other with
    | [], _ => rfl
    | [_], one => exact absurd rfl one
    | _ :: _ :: _, _ => rfl
  | key flaw =>
    unfold parse
    simp only [flaw.splitKey_eq]

theorem declares_or_flaw (document : Json) :
    (∃ declaration : NodeDeclaration, IsName declaration.key ∧
      declaration.toDocument = document) ∨ ∃ defect, Flaw document defect := by
  cases document with
  | object rows =>
    match rows with
    | [(key, body)] =>
      rcases isKey_or_flaw key with ⟨name, dynamic, hname, hkey⟩ | ⟨defect, hflaw⟩
      · exact Or.inl ⟨⟨name, dynamic, body⟩, hname, by rw [hkey]; rfl⟩
      · exact Or.inr ⟨defect, .key hflaw⟩
    | [] => exact Or.inr ⟨_, .count (by simp)⟩
    | _ :: _ :: _ => exact Or.inr ⟨_, .count (by simp)⟩
  | null | bool | number | string | array => exact Or.inr ⟨_, .notMapping rfl⟩

theorem parse_eq_ok_iff {document : Json} {origin : String} {declaration : NodeDeclaration} :
    parse document origin = .ok declaration ↔
      IsName declaration.key ∧ declaration.toDocument = document := by
  constructor
  · intro h
    rcases declares_or_flaw document with ⟨found, hname, hdocument⟩ | ⟨defect, hflaw⟩
    · rw [← hdocument, parse_toDocument hname] at h
      cases h
      exact ⟨hname, hdocument⟩
    · rw [hflaw.parse_eq] at h
      cases h
  · rintro ⟨hname, rfl⟩
    exact parse_toDocument hname origin

theorem parse_eq_error_iff {document : Json} {origin : String} {error : Error} :
    parse document origin = .error error ↔
      ∃ defect, Flaw document defect ∧ error = .malformed origin defect := by
  constructor
  · intro h
    rcases declares_or_flaw document with ⟨found, hname, hdocument⟩ | ⟨defect, hflaw⟩
    · rw [← hdocument, parse_toDocument hname] at h
      cases h
    · rw [hflaw.parse_eq] at h
      cases h
      exact ⟨defect, hflaw, rfl⟩
  · rintro ⟨defect, hflaw, rfl⟩
    exact hflaw.parse_eq origin

/-- A document is read exactly if it has one key, a name or a name with `@dynamic` behind it. What
    is read is the declaration that makes up the document: its name, whether the key has the suffix,
    and what the key maps to. Any other document is an error that names its origin and tells what is
    wrong with the document. -/
theorem parse_ok_or_malformed (document : Json) (origin : String) :
    ((∃ declaration, parse document origin = .ok declaration) ↔
      ∃ name body, IsName name ∧
        (document = .object [(name, body)] ∨ document = .object [(name ++ "@dynamic", body)])) ∧
    (∀ declaration, parse document origin = .ok declaration ↔
      IsName declaration.key ∧ declaration.toDocument = document) ∧
    ∀ error, parse document origin = .error error ↔
      ∃ defect, Flaw document defect ∧ error = .malformed origin defect := by
  refine ⟨⟨?_, ?_⟩, fun declaration => parse_eq_ok_iff, fun error => parse_eq_error_iff⟩
  · rintro ⟨⟨name, dynamic, body⟩, h⟩
    obtain ⟨hname, rfl⟩ := parse_eq_ok_iff.1 h
    cases dynamic with
    | false => exact ⟨name, body, hname, Or.inl rfl⟩
    | true => exact ⟨name, body, hname, Or.inr rfl⟩
  · rintro ⟨name, body, hname, rfl | rfl⟩
    · exact ⟨⟨name, false, body⟩, parse_eq_ok_iff.2 ⟨hname, rfl⟩⟩
    · exact ⟨⟨name, true, body⟩, parse_eq_ok_iff.2 ⟨hname, rfl⟩⟩

/-- An unknown kind is told also where the name is missing. -/
example : parse (.object [("@static", .null)]) "A.yaml" =
    .error (.malformed "A.yaml" (.unknownNodeKind "static")) := rfl

end ResourceModel.NodeDeclaration

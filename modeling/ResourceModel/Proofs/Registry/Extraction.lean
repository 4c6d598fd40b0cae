import ResourceModel.Fragment
import ResourceModel.Proofs.Registry.Growth
import ResourceModel.Proofs.Registry.Scan

set_option autoImplicit false

/-! # What is scanned of a fragment

A scan and a chase read the references of a fragment each in its own way. Both look at the
alternatives of a union. Apart from those a chase takes the reference of the fragment before that of
its items, and looks for the latter as in any fragment, while a scan looks at the items alone where
there are some, and there only for a reference of their own. -/

namespace ResourceModel

namespace Scan

/-! ## The fragments of a scan -/

/-- The fragments in a map of properties: the properties, and those nested in what is scanned of
    them. -/
inductive Inside : Json → Json → Prop where
  | property {properties fragment : Json} {rows : Table Json} {key : String}
      (hrows : properties.object? = some rows) (hrow : (key, fragment) ∈ rows) :
      Inside properties fragment
  | nested {properties : Json} {rows : Table Json} {row : String × Json} {inner fragment : Json}
      (hrows : properties.object? = some rows) (hrow : row ∈ rows)
      (hinner : (element row.2).get? "properties" = some inner) (h : Inside inner fragment) :
      Inside properties fragment

/-- The references that stand in a map of properties are those that are scanned of its fragments. -/
theorem finds_iff {properties : Json} {uri : String} :
    Finds properties uri ↔ ∃ fragment, Inside properties fragment ∧ uri ∈ ofProperty fragment := by
  constructor
  · intro h
    induction h with
    | alternative hrows hrow halternatives hchosen huri =>
      refine ⟨_, .property hrows hrow, mem_ofProperty.2 (Or.inl ?_)⟩
      exact mem_ofAlternatives.2 ⟨_, halternatives, _, hchosen, huri⟩
    | element hrows hrow huri => exact ⟨_, .property hrows hrow, mem_ofProperty.2 (Or.inr huri)⟩
    | nested hrows hrow hinner _ ih =>
      obtain ⟨fragment, inside, huri⟩ := ih
      exact ⟨fragment, .nested hrows hrow hinner inside, huri⟩
  · rintro ⟨fragment, inside, huri⟩
    induction inside with
    | property hrows hrow => exact finds_of_mem_ofProperty hrows hrow huri
    | nested hrows hrow hinner _ ih => exact .nested hrows hrow hinner (ih huri)

/-- Whether a scan of a map of properties registers a schema id: one of its fragments has a reference
    that is scanned and mentions the id. -/
def Reaches (properties : Json) (id : String) : Prop :=
  ∃ fragment uri mentioned, Inside properties fragment ∧ uri ∈ ofProperty fragment ∧
    Mention.ofUri? uri = some mentioned ∧ mentioned.id = id

/-- A scan that comes to its end reaches exactly the ids that its references mention. -/
theorem mentions_iff_reaches {levels : Nat} {properties : Json} {id : String}
    (complete : (ofProperties levels properties).complete) :
    (∃ uri ∈ (ofProperties levels properties).references,
        ∃ mentioned, Mention.ofUri? uri = some mentioned ∧ mentioned.id = id) ↔
      Reaches properties id := by
  constructor
  · rintro ⟨uri, huri, mentioned, hmentioned, hid⟩
    obtain ⟨fragment, inside, hscanned⟩ := finds_iff.1 (finds_of_mem huri)
    exact ⟨fragment, uri, mentioned, inside, hscanned, hmentioned, hid⟩
  · rintro ⟨fragment, uri, mentioned, inside, hscanned, hmentioned, hid⟩
    have hfinds := finds_iff.2 ⟨fragment, inside, hscanned⟩
    exact ⟨uri, mem_of_finds complete hfinds, mentioned, hmentioned, hid⟩

/-- The reference that a fragment carries is scanned exactly if the fragment is a union or if the
    reference stands where a scan looks for one. -/
theorem mem_ofProperty_iff_of_reference? {fragment : Json} {uri : String}
    (carried : Fragment.reference? fragment = some uri) :
    uri ∈ ofProperty fragment ↔
      (fragment.items? "anyOf").isSome ∨ (element fragment).text? "$ref" = some uri := by
  rw [mem_ofProperty]
  constructor
  · refine Or.imp_left fun h => ?_
    obtain ⟨alternatives, halternatives, _⟩ := mem_ofAlternatives.1 h
    rw [halternatives, Option.isSome_some]
  · refine Or.imp_left fun hunion => ?_
    obtain ⟨alternatives, halternatives⟩ := Option.isSome_iff_exists.1 hunion
    unfold Fragment.reference? at carried
    rw [halternatives] at carried
    obtain ⟨chosen, hchosen, huri⟩ := List.mem_filterMap.1 (List.mem_of_getLast? carried)
    exact mem_ofAlternatives.2 ⟨alternatives, halternatives, chosen, hchosen, huri⟩

end Scan

namespace Registry

variable {assets : Assets} {owner : Option String} {properties : Json} {registry final : Registry}

/-! ## What is registered -/

/-- After a map of properties an id has an entry exactly if it had one or the scan reaches it. -/
theorem isSome_extract_iff {value : Unit}
    (h : extract assets owner properties registry = .ok value final) (id : String) :
    (final.get? id).isSome ↔ (registry.get? id).isSome ∨ Scan.Reaches properties id := by
  obtain ⟨complete, rfl⟩ := addScan_eq_ok.1 h
  rw [get?_addDependencies_isSome, ← Scan.mentions_iff_reaches complete]
  refine or_congr Iff.rfl ?_
  constructor
  · rintro ⟨mentioned, hmem, hid⟩
    obtain ⟨uri, huri, hmentioned⟩ := List.mem_filterMap.1 hmem
    exact ⟨uri, huri, mentioned, hmentioned, hid⟩
  · rintro ⟨uri, huri, mentioned, hmentioned, hid⟩
    exact ⟨mentioned, List.mem_filterMap.2 ⟨uri, huri, hmentioned⟩, hid⟩

/-- The schema that a scanned fragment refers to has an entry after the map of properties exactly if
    it had one or the scan reaches it. The scan does if the fragment is a union, or if the reference
    stands in its items, or in the fragment itself where this has no items. -/
theorem covers_of_extract {value : Unit} {fragment : Json} {uri : String} {mentioned : Mention}
    (h : extract assets owner properties registry = .ok value final)
    (inside : Scan.Inside properties fragment) (carried : Fragment.reference? fragment = some uri)
    (mentions : Mention.ofUri? uri = some mentioned) :
    ((final.get? mentioned.id).isSome ↔
        (registry.get? mentioned.id).isSome ∨ Scan.Reaches properties mentioned.id) ∧
      ((fragment.items? "anyOf").isSome ∨ (Scan.element fragment).text? "$ref" = some uri →
        (final.get? mentioned.id).isSome) := by
  have hcovered := isSome_extract_iff h mentioned.id
  refine ⟨hcovered, fun hscanned => hcovered.2 (Or.inr ?_)⟩
  have huri := (Scan.mem_ofProperty_iff_of_reference? carried).2 hscanned
  exact ⟨fragment, uri, mentioned, inside, huri, mentions, rfl⟩

/-- A union with a reference to a schema. -/
def unionOf (reference : String) : Json :=
  .object [("anyOf", .array [.object [("$ref", .string reference)]])]

/-- A map with a list, among the properties of whose items stands a union. -/
def nestedUnion : Json :=
  .object [("P", .object [("items", .object [("properties", .object [("Q", unionOf "X.json")])])])]

theorem covers_of_nestedUnion :
    ∃ final, extract ⟨⟨[], []⟩, {}⟩ none nestedUnion .empty = .ok () final ∧
      (final.get? "X").isSome := by
  obtain ⟨⟨⟩, final, h⟩ : ∃ value final,
      extract ⟨⟨[], []⟩, {}⟩ none nestedUnion .empty = .ok value final := by decide +kernel
  have inside : Scan.Inside nestedUnion (unionOf "X.json") :=
    .nested rfl List.mem_cons_self rfl (.property rfl List.mem_cons_self)
  have carried : Fragment.reference? (unionOf "X.json") = some "X.json" := by decide +kernel
  have mentions : Mention.ofUri? "X.json" = some ⟨.redfish, "X", none⟩ := by decide +kernel
  exact ⟨final, h, (covers_of_extract h inside carried mentions).2 (Or.inl rfl)⟩

/-- A map with a list whose items are a union. -/
def unionItems : Json :=
  .object [("P", .object [("items", unionOf "X.json")])]

/-- A schema to which a scanned fragment refers need not have an entry: here a scan looks at the items
    of a list, which are a union, but not at the alternatives of it. -/
theorem covers_not_of_extract :
    ¬ ∀ (assets : Assets) (owner : Option String) (properties fragment : Json)
      (registry final : Registry) (uri : String) (mentioned : Mention),
      extract assets owner properties registry = .ok () final →
      Scan.Inside properties fragment → Fragment.reference? fragment = some uri →
      Mention.ofUri? uri = some mentioned → (final.get? mentioned.id).isSome := by
  intro covers
  obtain ⟨⟨⟩, final, h, hnone⟩ : ∃ value final,
      extract ⟨⟨[], []⟩, {}⟩ none unionItems .empty = .ok value final ∧
        (final.get? "X").isNone := by decide +kernel
  have inside : Scan.Inside unionItems (.object [("items", unionOf "X.json")]) :=
    .property rfl List.mem_cons_self
  have carried : Fragment.reference? (.object [("items", unionOf "X.json")]) = some "X.json" := by
    decide +kernel
  have mentions : Mention.ofUri? "X.json" = some ⟨.redfish, "X", none⟩ := by decide +kernel
  have hfound := covers _ _ _ _ _ _ _ _ h inside carried mentions
  simp [Option.isNone_iff_eq_none.1 hnone] at hfound

end Registry

end ResourceModel

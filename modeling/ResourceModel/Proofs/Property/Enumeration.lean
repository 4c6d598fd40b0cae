import ResourceModel.Proofs.Declaration
import ResourceModel.Proofs.Resolution.Ordered
import ResourceModel.Property.Enumeration

set_option autoImplicit false

/-! # The values of an enumeration

An enumeration joins three lists: what a schema lists, what a declaration maps, and what the schema
describes. The values are the listed ones that are mapped; a description is looked up by its value
among those that were kept for the values. -/

namespace ResourceModel

/-! ## Fields -/

/-- Whether the definitions of a scope have the rows of their objects in order. -/
structure Scope.Ordered (scope : Scope) : Prop where
  spec : scope.spec.Ordered
  context : scope.context.Ordered

namespace FieldBinding

variable {owner field : String} {spec object : Json}

theorem ordered_of_ownerIn (ordered : spec.Ordered) (h : ownerIn owner spec = .ok object) :
    object.Ordered := by
  unfold ownerIn at h
  split at h
  · exact Except.ok.inj h ▸ ordered
  · split at h
    · next definitions hdefinitions =>
      split at h
      · next definition hdefinition =>
        exact Except.ok.inj h ▸ (ordered.of_get? hdefinitions).of_get? hdefinition
      · cases h
    · split at h
      · exact Except.ok.inj h ▸ ordered
      · cases h

theorem ordered_alternativeFor (ordered : object.Ordered) (field : String) :
    (alternativeFor field object).Ordered := by
  unfold alternativeFor
  simp only
  cases hlast : (((object.items? "anyOf").getD []).filter fun alternative =>
      alternative.has "properties" || alternative.has field).getLast? with
  | none => exact ordered
  | some alternative =>
    have hmem := (List.mem_filter.1 (List.mem_of_getLast? hlast)).1
    cases halternatives : object.items? "anyOf" with
    | none => simp [halternatives] at hmem
    | some alternatives =>
      rw [halternatives] at hmem
      exact ordered.of_mem_items? halternatives hmem

theorem ordered_of_fieldIn? {fragment : Json} (ordered : object.Ordered)
    (h : fieldIn? object field = some fragment) : fragment.Ordered := by
  rcases Option.or_eq_some_iff.1 h with hrow | ⟨-, hproperty⟩
  · exact ordered.of_get? hrow
  · obtain ⟨properties, hproperties, hfield⟩ := Option.bind_eq_some_iff.1 hproperty
    exact (ordered.of_get? hproperties).of_get? hfield

theorem ordered_of_locate {binding : FieldBinding} (ordered : spec.Ordered)
    (h : locate owner spec field = .ok binding) : binding.fragment.Ordered := by
  obtain ⟨object, hobject, hrest⟩ := Step.except_bind_eq_ok.1 h
  split at hrest
  · next fragment hfragment =>
    cases hrest
    exact ordered_of_fieldIn? (ordered_alternativeFor (ordered_of_ownerIn ordered hobject) field)
      hfragment
  · cases hrest

end FieldBinding

namespace Enumeration

/-! ## The join -/

theorem mappedValues_mappingOf (rows : Table Json) (listed : List Json) :
    mappedValues (mappingOf rows) listed =
      (listed.filterMap Json.string?).filter fun value => value ∈ Table.keys rows := by
  unfold mappedValues mappingOf Table.keys
  refine List.filter_congr fun value _ => ?_
  rw [List.any_map, Bool.eq_iff_iff]
  simp

theorem mem_filterMap_string? {listed : List Json} {value : String} :
    value ∈ listed.filterMap Json.string? ↔ .string value ∈ listed := by
  simp [List.mem_filterMap, Json.string?_eq_some_iff]

/-- The description that is kept for a value is the text that the schema has for it. -/
theorem get?_descriptionsOf {values : List String} {described : Table Json}
    (sorted : Table.Sorted described) {value : String} (hvalue : value ∈ values) :
    Table.get? (descriptionsOf values described) value =
      (Table.get? described value).bind Json.string? := by
  induction described with
  | nil => rfl
  | cons row rest ih =>
    obtain ⟨key, item⟩ := row
    obtain ⟨hkey, hrest⟩ := List.pairwise_cons.1 sorted
    have ih := ih hrest
    unfold descriptionsOf at ih ⊢
    rw [List.filterMap_cons]
    by_cases heq : key = value
    · subst heq
      -- later rows have other keys, so without a text here nothing is kept for the value
      have hlater : Table.get? rest key = none := by
        refine Table.get?_eq_none fun hmem => ?_
        obtain ⟨row, hrow, heq⟩ := List.mem_map.1 hmem
        exact String.lt_irrefl key (heq ▸ hkey row hrow)
      rw [hlater] at ih
      cases htext : item.string? with
      | none => simp [Table.get?, hvalue, htext, ih]
      | some text => simp [Table.get?, hvalue, htext]
    · split
      · simp [Table.get?, heq, ih]
      · next kept hkept =>
        have hother : kept.1 = key := by
          split at hkept
          · obtain ⟨text, -, rfl⟩ := Option.map_eq_some_iff.1 hkept
            rfl
          · cases hkept
        simp [Table.get?, hother, heq, ih]

/-! ## Building -/

theorem build_eq_ok {assets : Assets} {scope : Scope} {declaration : Json} {session final : Session}
    {enumeration : Enumeration}
    (h : build assets scope declaration session = .ok enumeration final) :
    ∃ rows binding resolved listed,
      declaration.text? "Name" = some enumeration.name ∧
      enumeration.target = (declaration.text? "For").getD enumeration.name ∧
      declaration.get? "Mapping" = some (.object rows) ∧
      FieldBinding.locate scope.owner scope.spec enumeration.target = .ok binding ∧
      Resolution.resolve assets binding.fragment (some scope.context) true session =
        .ok (some resolved) final ∧
      resolved.items? "enum" = some listed ∧
      enumeration.values = mappedValues (mappingOf rows) listed ∧
      enumeration.descriptions = descriptionsOf enumeration.values
        (((resolved.get? "enumDescriptions").bind Json.object?).getD []) := by
  obtain ⟨name, hname, hrest⟩ := Step.ofExcept_bind_eq_ok.1 h
  obtain ⟨source, -, hrest⟩ := Step.ofExcept_bind_eq_ok.1 hrest
  obtain ⟨rows, hrows, hrest⟩ := Step.require_bind_eq_ok.1 hrest
  obtain ⟨binding, hbinding, hrest⟩ := Step.ofExcept_bind_eq_ok.1 hrest
  obtain ⟨found, middle, hresolve, hrest⟩ := Step.bind_eq_ok.1 hrest
  obtain ⟨resolved, rfl, hresolved⟩ := Step.require_bind_eq_ok.1 hrest
  obtain ⟨listed, hlisted, hanswer⟩ := Step.require_bind_eq_ok.1 hresolved
  cases hanswer
  refine ⟨rows, binding, resolved, listed, Declaration.requiredText_eq_ok.1 hname, rfl, ?_, hbinding,
    hresolve, hlisted, rfl, rfl⟩
  obtain ⟨mapping, hmapping, hobject⟩ := Option.bind_eq_some_iff.1 hrows
  cases mapping with
  | object found =>
    cases hobject
    exact hmapping
  | null | bool | number | string | array => cases hobject

/-! ## Descriptions -/

theorem description_of_mem {enumeration : Enumeration} {value : String}
    (h : value ∈ enumeration.values) :
    enumeration.description value = .ok (Table.get? enumeration.descriptions value) := by
  rw [description, if_pos h]

theorem description_of_not_mem {enumeration : Enumeration} {value : String}
    (h : value ∉ enumeration.values) :
    enumeration.description value = .error (.lookup (.noEnumValue value enumeration.name)) := by
  rw [description, if_neg h]

/-- What a fragment describes, with the text that it has for a value. -/
theorem text_of_described {resolved : Json} (ordered : resolved.Ordered) (value : String) :
    let described := ((resolved.get? "enumDescriptions").bind Json.object?).getD []
    Table.Sorted described ∧ (Table.get? described value).bind Json.string? =
      (resolved.get? "enumDescriptions").bind (·.text? value) := by
  cases hdescribed : resolved.get? "enumDescriptions" with
  | none => exact ⟨.nil, rfl⟩
  | some found =>
    cases found with
    | object rows => exact ⟨(Json.ordered_object_iff.1 (ordered.of_get? hdescribed)).1, rfl⟩
    | null | bool | number | string | array => exact ⟨.nil, rfl⟩

/-- The values of an enumeration are the texts that the fragment of its field lists and its declaration
    maps, in the order of the fragment. There is an error in looking up a description for what is not
    a value and for nothing else, and for a value it is the text that the fragment describes it by. -/
theorem values_and_descriptions_of_build {assets : Assets} {scope : Scope} {declaration : Json}
    {session final : Session} {enumeration : Enumeration}
    (h : build assets scope declaration session = .ok enumeration final) :
    ∃ rows binding resolved listed,
      declaration.get? "Mapping" = some (.object rows) ∧
      enumeration.target = (declaration.text? "For").getD enumeration.name ∧
      FieldBinding.locate scope.owner scope.spec enumeration.target = .ok binding ∧
      Resolution.resolve assets binding.fragment (some scope.context) true session =
        .ok (some resolved) final ∧
      resolved.items? "enum" = some listed ∧
      enumeration.values =
        (listed.filterMap Json.string?).filter (fun value => value ∈ Table.keys rows) ∧
      (∀ value, value ∈ enumeration.values ↔ value ∈ Table.keys rows ∧ .string value ∈ listed) ∧
      (∀ value, (∃ error, enumeration.description value = .error error) ↔
        value ∉ enumeration.values) ∧
      (∀ value, value ∉ enumeration.values →
        enumeration.description value = .error (.lookup (.noEnumValue value enumeration.name))) ∧
      (session.store.Ordered assets → scope.Ordered →
        ∀ value, value ∈ enumeration.values → ∀ text,
          enumeration.description value = .ok (some text) ↔
            (resolved.get? "enumDescriptions").bind (·.text? value) = some text) := by
  obtain ⟨rows, binding, resolved, listed, -, htarget, hmapping, hbinding, hresolve, hlisted, hvalues,
    hdescriptions⟩ := build_eq_ok h
  rw [mappedValues_mappingOf] at hvalues
  refine ⟨rows, binding, resolved, listed, hmapping, htarget, hbinding, hresolve, hlisted, hvalues,
    fun value => ?mem, fun value => ?fails, fun value hvalue => description_of_not_mem hvalue,
    fun hstore hscope value hvalue text => ?text⟩
  case mem =>
    rw [hvalues, List.mem_filter, mem_filterMap_string?, decide_eq_true_eq, and_comm]
  case fails =>
    constructor
    · rintro ⟨error, herror⟩ hvalue
      rw [description_of_mem hvalue] at herror
      cases herror
    · exact fun hvalue => ⟨_, description_of_not_mem hvalue⟩
  case text =>
    have hfragment := FieldBinding.ordered_of_locate hscope.spec hbinding
    have hresolved := Resolution.ordered_of_resolve hstore hfragment hscope.context hresolve
    obtain ⟨sorted, htext⟩ := text_of_described hresolved value
    rw [description_of_mem hvalue, hdescriptions, get?_descriptionsOf sorted hvalue, htext]
    exact ⟨Except.ok.inj, congrArg _⟩

/-- A drive with a field whose values are listed and in part described. -/
def statusScope : Scope where
  owner := "Drive"
  spec := .object [("definitions", .object [
    ("Drive", .object [("properties", .object [
      ("Status", .object [("$ref", .string "#/definitions/Status")])])]),
    ("Status", .object [
      ("enum", .array [.string "On", .null, .string "Off", .string "Idle"]),
      ("enumDescriptions", .object [("Off", .string "It rests."), ("On", .string "It runs.")])])])]
  enclosing := none

/-- The declaration of an enumeration of some of the values, and of one that is not listed. -/
def statusEnum : Json :=
  .object [("Mapping", .object [("Idle", .string "i"), ("Lost", .string "l"), ("On", .string "o")]),
    ("Name", .string "Status"), ("Source", .string "Drive")]

theorem ordered_statusScope : statusScope.Ordered := by
  have spec : statusScope.spec.Ordered := by
    simp only [statusScope, Json.ordered_object_iff, Json.ordered_array_iff, List.forall_mem_cons,
      List.not_mem_nil, false_implies, implies_true, Json.Ordered.string, Json.Ordered.null,
      and_true, true_and]
    decide +kernel
  exact ⟨spec, spec⟩

theorem description_of_statusEnum :
    ∃ enumeration final, ∃ resolved : Json,
      build ⟨⟨[], []⟩, {}⟩ statusScope statusEnum .start = .ok enumeration final ∧
        enumeration.values = ["On", "Idle"] ∧
        enumeration.description "On" = .ok (some "It runs.") ∧
        (resolved.get? "enumDescriptions").bind (·.text? "On") = some "It runs." ∧
        ∃ error, enumeration.description "Off" = .error error := by
  obtain ⟨enumeration, final, h, hvalues, hdescriptions⟩ : ∃ enumeration final,
      build ⟨⟨[], []⟩, {}⟩ statusScope statusEnum .start = .ok enumeration final ∧
        enumeration.values = ["On", "Idle"] ∧ enumeration.descriptions = [("On", "It runs.")] := by
    decide +kernel
  obtain ⟨_, _, resolved, _, -, -, -, -, -, -, -, fails, -, described⟩ :=
    values_and_descriptions_of_build h
  have hvalue : "On" ∈ enumeration.values := by simp [hvalues]
  have hon : enumeration.description "On" = .ok (some "It runs.") := by
    rw [description_of_mem hvalue, hdescriptions]
    rfl
  have htext := (described Store.Built.empty.ordered ordered_statusScope "On" hvalue _).1 hon
  exact ⟨enumeration, final, resolved, h, hvalues, hon, htext, (fails "Off").2 (by simp [hvalues])⟩

end Enumeration

end ResourceModel

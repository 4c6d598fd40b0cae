import ResourceModel.Declaration
import ResourceModel.Property.Scope
import ResourceModel.Property.Condition

set_option autoImplicit false

/-! # Enumerations

The values of a backing entity are mapped to the values that a schema lists. Of the listed values
those count that are mapped. -/

namespace ResourceModel

/-- A value of a backing entity and what it is mapped to. -/
structure ValueMapping where
  source : String
  dest : String
  deriving DecidableEq, Repr

/-- An enumeration: the field that carries it, the mapping, the listed values that are mapped, in
    the order of the schema, and their descriptions. -/
structure Enumeration where
  name : String
  target : String
  source : String
  mapping : List ValueMapping
  values : List String
  descriptions : Table String
  deriving DecidableEq, Repr

namespace Enumeration

/-- The mapping in a declared table. -/
def mappingOf (rows : Table Json) : List ValueMapping :=
  rows.map fun row => ⟨row.1, Condition.argumentText row.2⟩

/-- The listed values that are mapped, in their order. -/
def mappedValues (mapping : List ValueMapping) (listed : List Json) : List String :=
  (listed.filterMap Json.string?).filter fun value => mapping.any fun pair => pair.source = value

/-- The descriptions of values. -/
def descriptionsOf (values : List String) (described : Table Json) : Table String :=
  described.filterMap fun row =>
    if row.1 ∈ values then row.2.string?.map fun text => (row.1, text) else none

/-- Builds a declared enumeration. -/
def build (assets : Assets) (scope : Scope) (declaration : Json) : Step Session Enumeration := do
  let name ← Step.ofExcept
    (Declaration.requiredText declaration "Name" ("Enums of " ++ scope.owner))
  let subject := "enum '" ++ name ++ "' of " ++ scope.owner
  let target := (declaration.text? "For").getD name
  let source ← Step.ofExcept (Declaration.requiredText declaration "Source" subject)
  let rows ← Step.require ((declaration.get? "Mapping").bind Json.object?)
    (.malformed subject (.notMapping "Mapping"))
  let mapping := mappingOf rows
  let binding ← Step.ofExcept (FieldBinding.locate scope.owner scope.spec target)
  let found ← Resolution.resolve assets binding.fragment (some scope.context) true
  let resolved ← Step.require found (.unresolved target)
  let listed ← Step.require (resolved.items? "enum")
    (.corrupted scope.owner (.noEnumValues target))
  let values := mappedValues mapping listed
  let described := ((resolved.get? "enumDescriptions").bind Json.object?).getD []
  return { name, target, source, mapping, values, descriptions := descriptionsOf values described }

/-- The description of a value, which has to be one of the mapped ones. -/
def description (enumeration : Enumeration) (value : String) : Except Error (Option String) :=
  if value ∈ enumeration.values then .ok (Table.get? enumeration.descriptions value)
  else .error (.lookup (.noEnumValue value enumeration.name))

/-- A pair of a mapping as a value of a model. -/
def mappingToJson (pair : ValueMapping) : Json :=
  .object [("source", .string pair.source), ("dest", .string pair.dest)]

/-- An enumeration as a value of a model. -/
def toJson (enumeration : Enumeration) : Json :=
  .object [("name", .string enumeration.name), ("target", .string enumeration.target),
    ("source", .string enumeration.source),
    ("mapping", .array (enumeration.mapping.map mappingToJson)),
    ("values", .ofTexts enumeration.values),
    ("descriptions", .object (enumeration.descriptions.map fun row => (row.1, .string row.2)))]

end Enumeration

end ResourceModel

import ResourceModel.Property.Condition
import ResourceModel.Property.Getter
import ResourceModel.Property.Scope

set_option autoImplicit false

/-! # Properties of backing entities

Fields of a schema that are read from the fields of a backing entity. -/

namespace ResourceModel

/-- A field that is read from a field of a backing entity. -/
structure EntityField where
  name : String
  sourceField : String
  type : SemanticType
  getter : Getter
  description : Option String

namespace EntityField

/-- The fragment of a list's elements: its items, of which the first counts if they are listed; null
    if there are none. -/
def elementOf (list fragment : Json) : Json :=
  match (list.get? "items").or (fragment.get? "items") with
  | some (.array items) => items.headD .null
  | some items => items
  | none => .null

/-- The getter of a list's elements. They are seen from the enclosing document, or else from the
    document that the list lies in. -/
def elementGetter (assets : Assets) (scope : Scope) (fragment : Json) : Step Session Getter := do
  let context ← match scope.enclosing with
    | some document => pure document
    | none => Session.reading (Resolution.documentOf assets fragment (some scope.spec) true)
  let list ← Resolution.resolve assets fragment (some context) true
  let element := elementOf (list.getD fragment) fragment
  let type ← Resolution.typeOf assets element (some context)
  return Getter.ofType type (Fragment.typeName? element)

/-- The getter of a field, by its type. -/
def getterOf (assets : Assets) (scope : Scope) (name : String) (type : SemanticType)
    (fragment : Json) : Step Session Getter :=
  match type with
  | .enumeration => return .entityEnum ((Fragment.typeName? fragment).getD name)
  | .array => return .listField (← elementGetter assets scope fragment)
  | _ => return .scalarField

/-- Builds a declared field. -/
def build (assets : Assets) (scope : Scope) (declaration : Json) : Step Session EntityField := do
  let name ← Step.ofExcept (Declaration.requiredText declaration "Name" "entity field")
  let sourceField ← Step.ofExcept
    (Declaration.requiredText declaration "SourceField" ("entity field '" ++ name ++ "'"))
  let binding ← Step.ofExcept (FieldBinding.locate scope.owner scope.spec name)
  let type ← Resolution.typeOf assets binding.fragment (some scope.context)
  let getter ← getterOf assets scope name type binding.fragment
  let description ← binding.description assets scope.context
  return { name, sourceField, type, getter, description }

/-- Builds declared fields, one after the other. -/
def buildAll (assets : Assets) (scope : Scope) : List Json → Step Session (List EntityField)
  | [] => return []
  | declaration :: rest => do
    let field ← build assets scope declaration
    return field :: (← buildAll assets scope rest)

/-- A field as a value of a model. -/
def toJson (field : EntityField) : Json :=
  .object ([("name", .string field.name), ("source_field", .string field.sourceField),
    ("type", .string field.type.tag), ("getter", field.getter.toJson)] ++
    Json.optionalRow "description" (field.description.map .string))

end EntityField

/-- A backing entity and the fields that are read from it. -/
structure EntitySource where
  source : String
  name : String
  classname : String
  conditions : List Condition
  fields : List EntityField

namespace EntitySource

/-- Builds a declared entity. It has the name of its source unless another one is given. -/
def build (assets : Assets) (scope : Scope) (declaration : Json) :
    Step Session EntitySource := do
  let source ← Step.ofExcept (Declaration.requiredText declaration "Source" "Entity property")
  let name := (declaration.text? "Name").getD source
  let subject := "entity '" ++ name ++ "' of " ++ scope.owner
  let conditions ← Step.ofExcept (Condition.parseList declaration subject)
  let declared ← Step.ofExcept (Declaration.optionalList declaration "Fields" subject)
  let fields ← EntityField.buildAll assets scope declared
  return { source, name, conditions, fields, classname := name ++ "EntityGetter" }

/-- An entity as a value of a model. -/
def toJson (entity : EntitySource) : Json :=
  .object [("source", .string entity.source), ("name", .string entity.name),
    ("classname", .string entity.classname),
    ("conditions", .array (entity.conditions.map Condition.toJson)),
    ("fields", .array (entity.fields.map EntityField.toJson))]

end EntitySource

end ResourceModel

import ResourceModel.Declaration
import ResourceModel.Json.Printer
import ResourceModel.Property.Getter
import ResourceModel.Property.Scope

set_option autoImplicit false

/-! # Fixed properties

A property with a declared value, and the literal that stands for the value. Inside a literal of a
string a backslash goes before each quote and each backslash. -/

namespace ResourceModel

/-! ## Literals -/

namespace Literal

/-- A character inside a string literal. -/
def escape (c : Char) : List Char :=
  if c = '"' ∨ c = '\\' then ['\\', c] else [c]

/-- A text as a string literal. -/
def quoted (text : String) : String :=
  String.ofList ('"' :: text.toList.flatMap escape ++ ['"'])

/-- Whether a value counts as true: what is not null, false, zero or empty. -/
def isTrue : Json → Bool
  | .null => false
  | .bool b => b
  | .number n => !n.isZero
  | .string text => text ≠ ""
  | .array items => !items.isEmpty
  | .object rows => !rows.isEmpty

/-- The text of a value: a string as it is, any other value in its compact form. -/
def plainText : Json → String
  | .string text => text
  | value => value.compact

/-- The literal of a value of a type. -/
def ofValue (type : SemanticType) (value : Json) : String :=
  if value.isNull then "nullptr"
  else match type with
    | .string => quoted (plainText value)
    | .boolean => if isTrue value then "true" else "false"
    | _ => plainText value

end Literal

/-! ## Properties -/

/-- A property with a fixed value. -/
structure StaticProperty where
  name : String
  value : Json
  literal : String
  type : SemanticType
  getter : Getter
  description : Option String

namespace StaticProperty

/-- The type that a fixed value is written in: the value of an enumeration is written as a
    string. -/
def writtenType : SemanticType → SemanticType
  | .enumeration => .string
  | type => type

/-- The getter of a fixed value. -/
def getterOf (type : SemanticType) (value fragment : Json) : Getter :=
  if value.isNull then .null else Getter.ofType type (Fragment.typeName? fragment)

/-- Builds a declared property. -/
def build (assets : Assets) (scope : Scope) (declaration : Json) :
    Step Session StaticProperty := do
  let name ← Step.ofExcept (Declaration.requiredText declaration "Name" "Static property")
  let value ← Step.require (declaration.get? "Value")
    (.malformed ("Static property '" ++ name ++ "'") (.missingKey "Value"))
  let binding ← Step.ofExcept (FieldBinding.locate scope.owner scope.spec name)
  let type ← Resolution.typeOf assets binding.fragment (some scope.context)
  let written := writtenType type
  let description ← binding.description assets scope.context
  return {
    name, value, description
    literal := Literal.ofValue written value
    type := written
    getter := getterOf written value binding.fragment }

/-- A property as a value of a model. -/
def toJson (property : StaticProperty) : Json :=
  .object ([("name", .string property.name), ("value", property.value),
    ("literal", .string property.literal), ("type", .string property.type.tag),
    ("getter", property.getter.toJson)] ++
    Json.optionalRow "description" (property.description.map .string))

end StaticProperty

end ResourceModel

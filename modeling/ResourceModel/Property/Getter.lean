import ResourceModel.Fragment

set_option autoImplicit false

/-! # Getters

How the value of a property is read when the resource is served. -/

namespace ResourceModel

/-- A way to read a property. -/
inductive Getter where
  | bool
  | decimal
  | float
  | string
  | array
  | enumeration (name : String)
  | null
  /-- The enumeration field of a backing entity. -/
  | entityEnum (name : String)
  /-- A list field of a backing entity, with the getter of its elements. -/
  | listField (element : Getter)
  | scalarField
  | linkObject
  | linkCollection
  | odataId
  /-- The size of a named collection. -/
  | collectionSize (field : String)
  deriving DecidableEq, Repr

namespace Getter

/-- The getter of a type. An enumeration is read by its name, an unknown type as a string. -/
def ofType (type : SemanticType) (enumName : Option String) : Getter :=
  match type with
  | .boolean => bool
  | .integer => decimal
  | .number => float
  | .array => array
  | .enumeration => enumeration (enumName.getD "")
  | _ => string

/-- The text of a getter. -/
def text : Getter → String
  | bool => "BoolGetter"
  | decimal => "DecimalGetter"
  | float => "FloatGetter"
  | string => "StringGetter"
  | array => "ArrayGetter"
  | enumeration name => name ++ "Enum"
  | null => "NullGetter"
  | entityEnum name => "EntityEnumFieldGetter<" ++ name ++ "Enum>"
  | listField element => "ListFieldGetter<" ++ element.text ++ ">"
  | scalarField => "ScalarFieldGetter"
  | linkObject => "LinkObjectGetter"
  | linkCollection => "LinkCollectionGetter"
  | odataId => "ODataIdGetter"
  | collectionSize field => "CollectionSizeAnnotation<" ++ field ++ ">"

/-- A getter as a value of a model. -/
def toJson (getter : Getter) : Json :=
  .string getter.text

end Getter

end ResourceModel

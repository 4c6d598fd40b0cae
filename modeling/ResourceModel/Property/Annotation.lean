import ResourceModel.Declaration
import ResourceModel.Property.Getter

set_option autoImplicit false

/-! # Annotations

Members of a resource that OData defines: its id, and the sizes of its collections. -/

namespace ResourceModel

/-- An annotation. -/
inductive Annotation where
  | id
  | count (field : String)
  deriving DecidableEq, Repr

namespace Annotation

/-- Reads an annotation. -/
def parse (declaration : Json) : Except Error Annotation := do
  let type ← Declaration.requiredText declaration "Type" "annotation"
  if type = "ODataId" then .ok id
  else if type = "ODataCount" then
    .ok (count (← Declaration.requiredText declaration "Field" "ODataCount annotation"))
  else .error (.malformed "annotation" (.unknownAnnotationType type))

/-- How an annotation is read. -/
def getter : Annotation → Getter
  | id => .odataId
  | count field => .collectionSize field

/-- What an annotation is, as a value of a model. -/
def kindToJson : Annotation → Json
  | id => .object [("type", .string "ODataId")]
  | count field => .object [("type", .string "ODataCount"), ("field", .string field)]

/-- An annotation as a value of a model. -/
def toJson (item : Annotation) : Json :=
  .object [("annotation", item.kindToJson), ("getter", item.getter.toJson)]

end Annotation

end ResourceModel

import ResourceModel.Error
import ResourceModel.Xml.Markup

set_option autoImplicit false

/-! # Metadata documents

A metadata document declares namespaces, one for each `Schema` element. -/

namespace ResourceModel.Csdl

/-- The namespaces that a tag declares. -/
def namespacesOf (content : List Char) : List String :=
  if Xml.localName (Xml.nameOf content) = "Schema".toList then
    (Xml.attributes content).filterMap fun row =>
      if row.1 = "Namespace".toList then some (String.ofList row.2) else none
  else []

/-- The namespaces that a tag of the document declares. -/
def namespacesOfTag : Xml.Tag → List String
  | .opening content => namespacesOf content
  | .empty content => namespacesOf content
  | .closing _ => []

/-- The namespaces that a metadata document declares, in their order. -/
def namespaces (text : String) : Except Error (List String) :=
  match Xml.tags text.toList with
  | some tags => .ok (tags.flatMap namespacesOfTag)
  | none => .error .xml

end ResourceModel.Csdl

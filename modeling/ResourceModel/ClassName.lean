import ResourceModel.Text.Uppercase

set_option autoImplicit false

/-! # Class names

The names under which nodes and their aggregates are rendered. A node has one name wherever it is
referred to. -/

namespace ResourceModel.ClassName

/-- The class of the node with a declaration key. -/
def ofKey (key : String) : String :=
  "Redfish" ++ String.ofList (Text.capitalize key.toList)

/-- The texts of a list between commas. -/
def commaList (names : List String) : String :=
  String.intercalate "," names

/-- A reference to one node. -/
def idReference (name : String) : String :=
  "IdReference<" ++ name ++ ">"

/-- A list of references to several nodes. -/
def listReferences (names : List String) : String :=
  "ListReferences<" ++ commaList names ++ ">"

/-- The getter of every extension of an owner, if it has any. -/
def oemGetter? (names : List String) : Option String :=
  if names.isEmpty then none else some ("OemGetter<" ++ commaList names ++ ">")

/-- The getter of every link of an owner, if it has any. -/
def linksGetter? (names : List String) : Option String :=
  if names.isEmpty then none else some ("LinksGetter<" ++ commaList names ++ ">")

end ResourceModel.ClassName

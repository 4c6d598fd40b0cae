import ResourceModel.Node.Graph
import ResourceModel.Node.Properties

set_option autoImplicit false

/-! # Models of nodes

Everything that is written about a node, with nothing left to be looked up in the documents. -/

namespace ResourceModel

/-- The getter of every link of a node, and the field that it serves. -/
structure LinksGetter where
  classname : String
  field : String
  deriving DecidableEq, Repr

/-- A node as it is written. -/
structure NodeModel where
  classname : String
  key : String
  name : Option String
  id : String
  segment : String
  leading : List String
  parent : Option String
  parameter : Option NodeParameter
  standard : String
  schema : String
  version : Option String
  schemaUri : Option String
  odataType : Option String
  odataContext : Option String
  description : Option String
  longDescription : Option String
  insertable : Bool
  updatable : Bool
  deletable : Bool
  childClassnames : List String
  references : List ChildReference
  properties : PropertySet
  year : Nat

namespace NodeModel

/-- Builds the model of a node of a graph, written in the given year. -/
def build (assets : Assets) (graph : Graph) (year : Nat) (node : Node) :
    Step Session NodeModel := do
  let properties ← node.buildProperties assets
  let description ← Step.ofExcept node.description
  let longDescription ← Step.ofExcept node.longDescription
  let insertable ← Step.ofExcept node.insertable
  let updatable ← Step.ofExcept node.updatable
  let deletable ← Step.ofExcept node.deletable
  return {
    properties, description, longDescription, insertable, updatable, deletable, year
    classname := node.classname
    key := node.key
    name := node.name
    id := node.id
    segment := node.segment
    leading := node.leading
    parent := (graph.parentOf? node).map Node.classname
    parameter := node.parameter
    standard := node.standard.name
    schema := node.schema
    version := node.version.map Version.tag
    schemaUri := node.schemaUri
    odataType := node.odataType
    odataContext := node.odataContext
    childClassnames := node.children.classnames
    references := node.children.visible }

/-- The getter of every extension of a node. -/
def oemGetter? (model : NodeModel) : Option String :=
  ClassName.oemGetter? model.properties.oemNames

/-- The getter of every link of a node. It serves the field of the first one. -/
def linksGetter? (model : NodeModel) : Option LinksGetter :=
  match model.properties.links with
  | [] => none
  | link :: rest =>
    (ClassName.linksGetter? ((link :: rest).map Link.classname)).map fun classname =>
      ⟨classname, link.field⟩

/-- A getter of links as a value of a model. -/
def linksGetterToJson (getter : LinksGetter) : Json :=
  .object [("classname", .string getter.classname), ("field", .string getter.field)]

/-- A row of a text, if there is one. -/
def textRow (key : String) (text : Option String) : List (String × Json) :=
  Json.optionalRow key (text.map .string)

/-- A model as a value, its rows in the order in which they are written. -/
def toJson (model : NodeModel) : Json :=
  .object (
    [("classname", .string model.classname), ("def_filename", .string model.key)] ++
    textRow "name" model.name ++
    [("id", .string model.id), ("segment", .string model.segment),
      ("prefix", .ofTexts model.leading)] ++
    textRow "parent" model.parent ++
    Json.optionalRow "parameter" (model.parameter.map NodeParameter.toJson) ++
    [("standard", .string model.standard), ("schema_id", .string model.schema)] ++
    textRow "version" model.version ++
    textRow "schema_uri" model.schemaUri ++
    textRow "odata_type" model.odataType ++
    textRow "odata_context" model.odataContext ++
    textRow "description" model.description ++
    textRow "long_description" model.longDescription ++
    [("insertable", .bool model.insertable), ("updatable", .bool model.updatable),
      ("deletable", .bool model.deletable),
      ("child_classnames", .ofTexts model.childClassnames),
      ("references", .array (model.references.map ChildReference.toJson)),
      ("properties", model.properties.toJson)] ++
    textRow "oem_getter" model.oemGetter? ++
    Json.optionalRow "links_getter" (model.linksGetter?.map linksGetterToJson) ++
    [("collection_getters", .ofTexts model.properties.collectionClasses),
      ("year", .ofNat model.year)])

end NodeModel

end ResourceModel

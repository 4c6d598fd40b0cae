import ResourceModel.Node.Children
import ResourceModel.Node.Declaration
import ResourceModel.Node.Parameter
import ResourceModel.Store

set_option autoImplicit false

/-! # Nodes

A node is one resource: the schema it implements, its place among the ids, and the documents that
its schema needs. Building a node reads documents and binds the schema's unversioned one; nothing
else is changed by it. -/

namespace ResourceModel

/-- One resource. -/
structure Node where
  /-- The key of the declaration, which also names the directory of the children. -/
  key : String
  name : Option String
  segment : String
  leading : List String
  id : String
  standard : Standard
  schema : String
  version : Option Version
  /-- The place of the parent in the graph. -/
  parent : Option Nat
  parameter : Option NodeParameter
  children : Children
  declaration : NodeDeclaration
  openapi : Json
  spec : Json
  versioned : Option Json
  namespaces : List String

/-- Where a node hangs: the id of its parent and the place of the parent in the graph. -/
structure Anchor where
  id : Option String
  parent : Option Nat

namespace Node

/-! ## Reading the declaration -/

/-- The id under which nodes without a parent stand. -/
def rootId : String := "/redfish"

/-- The standard of a declared body. -/
def standardOf (body : Json) : Except Error Standard :=
  match body.text? "Standard" with
  | some name => Standard.ofName name
  | none => .ok .redfish

/-- The version of a declared body; none if it is absent or blank. -/
def versionOf (body : Json) (key : String) : Except Error (Option Version) :=
  match (body.get? "Version").bind Declaration.scalarText? with
  | none => .ok none
  | some text =>
    if (Text.trim text.toList).isEmpty then .ok none
    else match Version.parse? (Version.normalizeTag text) with
      | some version => .ok (some version)
      | none => .error (.malformed ("node '" ++ key ++ "'") (.invalidVersion text))

/-- The parameter of a declaration, which a dynamic node has to have. -/
def parameterOf (declaration : NodeDeclaration) : Except Error (Option NodeParameter) :=
  if declaration.dynamic then
    match declaration.body.get? "Parameter" with
    | some definition => (NodeParameter.parse definition declaration.key).map some
    | none => .error (.malformed ("node '" ++ declaration.key ++ "'") .noParameter)
  else .ok none

/-- The last segment of the id of a node. -/
def segmentOf (declaration : NodeDeclaration) : Option NodeParameter → String
  | some parameter => parameter.placeholder
  | none => (declaration.body.text? "Segment").getD declaration.key

/-- The segments that a node's id has in front of the last one. -/
def leadingOf (body : Json) : List String :=
  ((body.text? "Prefix").map fun text => nonEmptyParts text '/').getD []

/-- The id of a node below its parent's. -/
def idBelow (parent : Option String) (leading : List String) (segment : String) : String :=
  parent.getD rootId ++ "/" ++ String.join (leading.map (· ++ "/")) ++ segment

/-- What a declaration says about a node before any document is read. -/
structure Outline where
  schema : String
  standard : Standard
  version : Option Version
  parameter : Option NodeParameter
  children : Children

/-- Reads the outline of a declaration. -/
def outline (strict : Bool) (declaration : NodeDeclaration) : Except Error Outline := do
  let body := declaration.body
  let schema ← match body.text? "Schema" with
    | some schema => pure schema
    | none => throw (.missingSchema declaration.key)
  let standard ← standardOf body
  let version ← versionOf body declaration.key
  let parameter ← parameterOf declaration
  let children ← Children.parse declaration.getAction? declaration.key strict
  return { schema, standard, version, parameter, children }

/-! ## Building -/

/-- The document of the declared version, if there is one. -/
def requireVersioned (assets : Assets) (outline : Outline) : Step Store (Option Json) :=
  match outline.version with
  | some version => do
    return some (← Store.require assets outline.standard (stemOf outline.schema (some version)))
  | none => return none

/-- Builds a node at an anchor and binds the document of its schema. -/
def build (assets : Assets) (anchor : Anchor) (declaration : NodeDeclaration) :
    Step Store Node := do
  let strict := assets.config.limits.strictReferences
  let outline ← Step.ofExcept (outline strict declaration)
  let openapi ← Step.ofExcept (assets.openapi outline.standard outline.schema)
  let spec ← Store.require assets outline.standard outline.schema
  let versioned ← requireVersioned assets outline
  let namespaces ← Step.ofExcept
    (assets.namespaces (assets.csdlPath outline.standard outline.schema))
  -- nothing can fail any more, so a node that is not built binds nothing
  modify fun store => store.bind outline.schema spec
  let leading := leadingOf declaration.body
  let segment := segmentOf declaration outline.parameter
  return {
    declaration, openapi, spec, versioned, namespaces, segment, leading
    key := declaration.key
    name := declaration.body.text? "Name"
    id := idBelow anchor.id leading segment
    standard := outline.standard
    schema := outline.schema
    version := outline.version
    parent := anchor.parent
    parameter := outline.parameter
    children := outline.children }

/-! ## Reading the documents -/

/-- The class of a node. -/
def classname (node : Node) : String :=
  ClassName.ofKey node.key

/-- The document of the declared version, or else the unversioned one. -/
def schemaDocument (node : Node) : Json :=
  node.versioned.getD node.spec

/-- The definition of the node's schema in the unversioned document. -/
def definition (node : Node) : Except Error Json :=
  match (node.spec.get? "definitions").bind (·.get? node.schema) with
  | some definition => .ok definition
  | none => .error (.corrupted node.schema (.missingNodeDefinition node.schema))

/-- A row of the second alternative of a union. -/
def ofSecondAlternative? (definition : Json) (field : String) : Option Json :=
  ((definition.items? "anyOf").bind fun alternatives => alternatives[1]?).bind (·.get? field)

/-- The text in a row of the node's definition, or else of its second alternative. The row has to
    be there; it holds no text if it is not a string. -/
def definedText (node : Node) (field : String) : Except Error (Option String) := do
  let definition ← node.definition
  match (definition.get? field).or (ofSecondAlternative? definition field) with
  | some value => .ok value.string?
  | none => .error (.corrupted node.schema (.undeclared field))

/-- The description of the node's schema. -/
def description (node : Node) : Except Error (Option String) :=
  node.definedText "description"

/-- The long description of the node's schema. -/
def longDescription (node : Node) : Except Error (Option String) :=
  node.definedText "longDescription"

/-- The ids that the node's schema lists. -/
def uris (node : Node) : Except Error (List String) := do
  let definition ← node.definition
  match definition.items? "uris" with
  | some uris => .ok (uris.filterMap Json.string?)
  | none => .error (.corrupted node.schema (.undeclared "uris"))

/-- Whether the node's schema declares a capability. -/
def capability (node : Node) (field : String) : Except Error Bool := do
  let definition ← node.definition
  return ((definition.get? field).bind Json.bool?).getD false

/-- Whether resources may be added. -/
def insertable (node : Node) : Except Error Bool :=
  node.capability "insertable"

/-- Whether the resource may be changed. -/
def updatable (node : Node) : Except Error Bool :=
  node.capability "updatable"

/-- Whether the resource may be removed. -/
def deletable (node : Node) : Except Error Bool :=
  node.capability "deletable"

/-- The metadata context of the resource. -/
def odataContext (node : Node) : Option String :=
  (node.spec.text? "title").map fun title => "/redfish/v1/$metadata" ++ title

/-- The type of the resource. -/
def odataType (node : Node) : Option String :=
  node.schemaDocument.text? "title"

/-- The address of the unversioned document. -/
def schemaUri (node : Node) : Option String :=
  node.spec.text? "$id"

/-- Fails unless the schema lists the id of the node. -/
def validate (node : Node) : Except Error Unit := do
  if node.id ∈ (← node.uris) then .ok ()
  else .error (.undeclaredId node.segment node.classname node.id)

end Node

end ResourceModel

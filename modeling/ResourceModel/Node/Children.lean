import ResourceModel.ClassName
import ResourceModel.Error

set_option autoImplicit false

/-! # Child references

A node lists under `Reference` the nodes that its resource links to: one node by its name, or
several nodes as a list under one field. A list that is malformed is an error in strict mode and
counts as absent otherwise. -/

namespace ResourceModel

/-- How a child is shown in the resource of its parent. -/
inductive ReferenceKind where
  | object
  | list
  deriving DecidableEq, Repr

/-- A reference to one or several child nodes. -/
structure ChildReference where
  nodes : List String
  field : String
  hidden : Bool
  kind : ReferenceKind
  classname : String
  deriving DecidableEq, Repr

namespace ChildReference

/-- The names in a list of nodes. -/
def names? (nodes : List Json) : Option (List String) :=
  nodes.mapM Json.string?

/-- Reads a reference to one node. The field has the node's name unless it is given. -/
def ofNode (name : String) (field : Option String) (hidden : Bool) : ChildReference :=
  ⟨[name], field.getD name, hidden, .object, ClassName.idReference (ClassName.ofKey name)⟩

/-- Reads a reference to several nodes under a field. -/
def ofNodes (names : List String) (field : String) (hidden : Bool) : ChildReference :=
  ⟨names, field, hidden, .list, ClassName.listReferences (names.map ClassName.ofKey)⟩

/-- Reads one entry of a list of references. -/
def parse (entry : Json) : Except Defect ChildReference :=
  let field := entry.text? "Field"
  let hidden := ((entry.get? "Hide").bind Json.bool?).getD false
  match entry.get? "Node" with
  | some (.string name) => .ok (ofNode name field hidden)
  | some (.array nodes) =>
    match names? nodes, field with
    | none, _ => .error .referenceNodeEntry
    | some _, none => .error .referenceWithoutField
    | some names, some field => .ok (ofNodes names field hidden)
  | some _ => .error .referenceNodeShape
  | none => .error .referenceWithoutNode

/-- A kind of reference as a value of a model. -/
def kindToJson : ReferenceKind → Json
  | .object => .string "Object"
  | .list => .string "List"

/-- A reference as a value of a model. -/
def toJson (reference : ChildReference) : Json :=
  .object [("nodes", .ofTexts reference.nodes), ("field", .string reference.field),
    ("hidden", .bool reference.hidden), ("kind", kindToJson reference.kind),
    ("classname", .string reference.classname)]

end ChildReference

/-- The child references of a node, in declaration order. -/
structure Children where
  references : List ChildReference
  deriving DecidableEq, Repr

namespace Children

/-- No children. -/
def none : Children := ⟨[]⟩

/-- Reads a list of references; null is an empty one. -/
def parseList : Json → Except Defect (List ChildReference)
  | .null => .ok []
  | .array entries => entries.mapM ChildReference.parse
  | _ => .error .referencesNotList

/-- Reads the references of a read request of the node with the given key. -/
def parse (action : Option Json) (node : String) (strict : Bool) : Except Error Children :=
  match action.bind (·.get? "Reference") with
  | .none => .ok none
  | some list =>
    match parseList list with
    | .ok references => .ok ⟨references⟩
    | .error defect =>
      if strict then .error (.malformed ("references of node '" ++ node ++ "'") defect)
      else .ok none

/-- The references that are shown. -/
def visible (children : Children) : List ChildReference :=
  children.references.filter fun reference => !reference.hidden

/-- The classes of every child, also of those that are not shown. -/
def classnames (children : Children) : List String :=
  children.references.flatMap fun reference => reference.nodes.map ClassName.ofKey

end Children

end ResourceModel

import ResourceModel.Node.Basic
import ResourceModel.Property.Build

set_option autoImplicit false

/-! # The properties of a node

The properties that a node's declaration lists, built against the document of its schema. -/

namespace ResourceModel.Node

/-- The scope of the properties of a node. -/
def scope (node : Node) : Scope :=
  ⟨node.schema, node.schemaDocument, none⟩

/-- Builds the properties of a node; there are none if the declaration has no place for them. -/
def buildProperties (assets : Assets) (node : Node) : Step Session PropertySet :=
  match node.declaration.properties? with
  | none => return []
  | some declared =>
    if PropertySet.isMapping declared then
      PropertySet.build assets node.scope PropertyKind.ofNode declared
    else throw (.malformed ("properties of node '" ++ node.key ++ "'") (.notMapping "Properties"))

end ResourceModel.Node

import ResourceModel.Node.Basic

set_option autoImplicit false

/-! # The graph of nodes

The nodes of a run in the order in which they were built. A node refers to its parent by the
parent's place. -/

namespace ResourceModel

/-- The nodes of a run, in the order in which they were built. -/
structure Graph where
  nodes : List Node

namespace Graph

/-- No nodes. -/
def empty : Graph :=
  ⟨[]⟩

/-- The number of nodes. -/
def size (graph : Graph) : Nat :=
  graph.nodes.length

/-- The graph with a node at its end. -/
def insert (graph : Graph) (node : Node) : Graph :=
  ⟨graph.nodes ++ [node]⟩

/-- The node at a place. -/
def get? (graph : Graph) (place : Nat) : Option Node :=
  graph.nodes[place]?

/-- The place of the last node of a class. -/
def placeOfClass? (graph : Graph) (classname : String) : Option Nat :=
  (graph.nodes.reverse.findIdx? fun node => node.classname = classname).map fun distance =>
    graph.size - 1 - distance

/-- The place of the first node of a schema. -/
def placeOfSchema? (graph : Graph) (schema : String) : Option Nat :=
  graph.nodes.findIdx? fun node => node.schema = schema

/-- The parent of a node. -/
def parentOf? (graph : Graph) (node : Node) : Option Node :=
  node.parent.bind graph.get?

/-- Where a child of the node at a place hangs. -/
def anchorBelow (graph : Graph) (place : Option Nat) : Anchor :=
  ⟨(place.bind graph.get?).map Node.id, place⟩

end Graph

end ResourceModel

import ResourceModel.Registry.Basic

set_option autoImplicit false

/-! # The dependency graph as a drawing

The text in the DOT language that draws the schemas of a registry and their dependencies. -/

namespace ResourceModel.Registry

/-- The color of a schema, by its origin. -/
def color (registry : Registry) (id : String) : String :=
  match (registry.get? id).map Entry.origin with
  | some .extension => "#FF9800"
  | _ => "#00BCD4"

/-- The label of a schema: its stem, or its id if it is not registered. -/
def label (registry : Registry) (id : String) : String :=
  ((registry.get? id).map Entry.stem).getD id

/-- The line that draws a schema. -/
def nodeLine (registry : Registry) (id : String) : String :=
  "  \"" ++ id ++ "\" [label=\"" ++ registry.label id ++ "\", color=\"" ++ registry.color id ++
    "\"];\n"

/-- The line that draws a dependency. -/
def edgeLine (source target : String) : String :=
  "  \"" ++ source ++ "\" -> \"" ++ target ++ "\";\n"

/-- The lines that draw the dependencies of a schema. -/
def edgeLines (registry : Registry) (id : String) : List String :=
  (registry.dependencies id).map (edgeLine id)

/-- The drawing of a registry. -/
def dot (registry : Registry) : String :=
  let ids := sortTexts registry.ids
  "digraph SchemaDependencies \x7b\n" ++
    "  rankdir=LR;\n" ++
    "  node [shape=box, style=rounded, fontname=\"Helvetica\", fontsize=10];\n\n" ++
    String.join (ids.map registry.nodeLine) ++
    "\n" ++
    String.join (ids.flatMap registry.edgeLines) ++
    "\x7d\n"

end ResourceModel.Registry

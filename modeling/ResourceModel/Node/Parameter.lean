import ResourceModel.Property.Condition

set_option autoImplicit false

/-! # Node parameters

The source of the values that a dynamic node's id has in place of its last segment. -/

namespace ResourceModel

/-- The parameter of a dynamic node. -/
inductive NodeParameter where
  | fixed (name : String) (value : Json)
  | entity (name source : String) (conditions : List Condition)
  deriving Repr

namespace NodeParameter

/-- Reads the parameter of the node with the given key. -/
def parse (declaration : Json) (node : String) : Except Error NodeParameter := do
  let subject := "parameter of node '" ++ node ++ "'"
  let name ← Declaration.requiredText declaration "Parameter" subject
  let type ← Declaration.requiredText declaration "Type" subject
  if type = "Static" then .ok (fixed name ((declaration.get? "Value").getD .null))
  else if type = "Entity" then
    let source ← Declaration.requiredText declaration "Source" subject
    .ok (entity name source (← Condition.parseList declaration subject))
  else .error (.malformed subject (.unknownParameter type))

/-- The name of a parameter. -/
def name : NodeParameter → String
  | fixed name _ => name
  | entity name _ _ => name

/-- The parameter as a segment of an id. -/
def placeholder (parameter : NodeParameter) : String :=
  "\x7b" ++ parameter.name ++ "\x7d"

/-- A parameter as a value of a model. -/
def toJson : NodeParameter → Json
  | fixed name value =>
    .object [("type", .string "Static"), ("name", .string name), ("value", value)]
  | entity name source conditions =>
    .object [("type", .string "Entity"), ("name", .string name), ("source", .string source),
      ("conditions", .array (conditions.map Condition.toJson))]

end NodeParameter

end ResourceModel

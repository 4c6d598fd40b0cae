import ResourceModel.Error

set_option autoImplicit false

/-! # Node declarations

A declaration file declares one node under one key. The key names the node; a key that ends in
`@dynamic` declares a node with one instance for each of its parameter's values. -/

namespace ResourceModel

/-- The declaration of a node. -/
structure NodeDeclaration where
  key : String
  dynamic : Bool
  body : Json

namespace NodeDeclaration

/-- The suffix of a dynamic node, behind an `@`. -/
def dynamicSuffix : String := "dynamic"

/-- The name in a key, and whether it declares a dynamic node. -/
def splitKey (key : String) : Except Defect (String × Bool) :=
  match splitParts key '@' with
  | [name] => if name = "" then .error .emptyKey else .ok (name, false)
  | [name, kind] =>
    if kind = dynamicSuffix then
      if name = "" then .error .emptyKey else .ok (name, true)
    else .error (.unknownNodeKind kind)
  | _ => .error (.invalidKey key)

/-- Reads the declaration in a document that comes from `origin`. -/
def parse (document : Json) (origin : String) : Except Error NodeDeclaration :=
  match document with
  | .object [(key, body)] =>
    match splitKey key with
    | .ok (name, dynamic) => .ok ⟨name, dynamic, body⟩
    | .error defect => .error (.malformed origin defect)
  | .object rows => .error (.malformed origin (.nodeCount rows.length))
  | _ => .error (.malformed origin .documentNotMapping)

/-- What a node answers to a read request, if that is declared. -/
def getAction? (declaration : NodeDeclaration) : Option Json :=
  (declaration.body.get? "Actions").bind (·.get? "Get")

/-- The declared properties: those of the read request, or else those of the node. -/
def properties? (declaration : NodeDeclaration) : Option Json :=
  (declaration.getAction?.bind (·.get? "Properties")).or (declaration.body.get? "Properties")

end NodeDeclaration

end ResourceModel

import ResourceModel.Resolution

set_option autoImplicit false

/-! # Where properties are declared

A set of properties is built against the definition that owns them. A declared field is bound to its
fragment there. -/

namespace ResourceModel

/-- The definition that owns properties, the document or fragment that it lies in, and the document
    around that one if there is one. -/
structure Scope where
  owner : String
  spec : Json
  enclosing : Option Json

namespace Scope

/-- The document that references are seen from. -/
def context (scope : Scope) : Json :=
  scope.enclosing.getD scope.spec

end Scope

/-- A field and its fragment. -/
structure FieldBinding where
  field : String
  fragment : Json

namespace FieldBinding

/-- The object that an owner's fields lie in: the document itself if it has a row of the owner's
    name, else the owner's definition, else the document if it holds properties. -/
def ownerIn (owner : String) (spec : Json) : Except Error Json :=
  if spec.has owner then .ok spec
  else match spec.get? "definitions" with
    | some definitions =>
      match definitions.get? owner with
      | some definition => .ok definition
      | none => .error (.corrupted owner (.missingDefinition owner))
    | none =>
      if spec.has "properties" then .ok spec
      else .error (.corrupted owner .noDeclarations)

/-- The alternative of a union that fields lie in: the last one with properties or with the field;
    the object itself if there is none. -/
def alternativeFor (field : String) (object : Json) : Json :=
  let alternatives := (object.items? "anyOf").getD []
  let fitting := alternatives.filter fun alternative =>
    alternative.has "properties" || alternative.has field
  fitting.getLast?.getD object

/-- The fragment of a field in an object: its own row, or else that among its properties. -/
def fieldIn? (object : Json) (field : String) : Option Json :=
  (object.get? field).or ((object.get? "properties").bind (·.get? field))

/-- Binds a field of an owner to its fragment. -/
def locate (owner : String) (spec : Json) (field : String) : Except Error FieldBinding := do
  let object ← ownerIn owner spec
  match fieldIn? (alternativeFor field object) field with
  | some fragment => .ok ⟨field, fragment⟩
  | none => .error (.malformed ("property '" ++ field ++ "' of " ++ owner) .undeclaredField)

/-- The description of a field: that of its fragment, or else that of the fragment it refers to. -/
def description (assets : Assets) (binding : FieldBinding) (context : Json) :
    Step Session (Option String) :=
  match binding.fragment.text? "description" with
  | some text => return some text
  | none => do
    let resolved ← Resolution.resolve assets binding.fragment (some context) true
    return resolved.bind (·.text? "description")

end FieldBinding

end ResourceModel

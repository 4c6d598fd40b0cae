import ResourceModel.Property.Condition
import ResourceModel.Property.Getter
import ResourceModel.Property.Scope

set_option autoImplicit false

/-! # Links

A link leads to another resource, or to a list of them. The template of its id has to be one of
those that the schema of the other resource lists. Related items are bound to one field and are not
checked. -/

namespace ResourceModel

/-- The source of the value of a placeholder in a link's template. -/
structure LinkParameter where
  id : String
  field : String
  entity : Option String
  fromContext : Bool
  conditions : List Condition

namespace LinkParameter

/-- Reads a parameter of a link. -/
def parse (declaration : Json) (link : String) : Except Error LinkParameter := do
  let subject := "parameter of link '" ++ link ++ "'"
  let id ← Declaration.requiredText declaration "Id" subject
  let field ← Declaration.requiredText declaration "Field" subject
  let conditions ← Condition.parseList declaration subject
  return {
    id, field, conditions
    entity := declaration.text? "Entity"
    fromContext := ((declaration.get? "FromContext").bind Json.bool?).getD false }

/-- A parameter as a value of a model. -/
def toJson (parameter : LinkParameter) : Json :=
  .object ([("id", .string parameter.id), ("field", .string parameter.field)] ++
    Json.optionalRow "entity" (parameter.entity.map .string) ++
    [("from_context", .bool parameter.fromContext),
      ("conditions", .array (parameter.conditions.map Condition.toJson))])

end LinkParameter

/-- A link. -/
structure Link where
  name : String
  template : Option String
  field : String
  classname : String
  getter : Getter
  target : String
  parameters : List LinkParameter

namespace Link

/-- The field that related items are bound to. -/
def relatedItemField : String := "RelatedItem"

/-- The field that links are bound to, unless another one is given. -/
def defaultField : String := "Links"

/-- The getter of a linked field: one that has items links to a list. -/
def getterOf (fragment : Json) : Getter :=
  if fragment.has "items" then .linkCollection else .linkObject

/-- The reference of the linked resource's type: that of the items, or else that of the field. -/
def targetOf? (fragment : Json) : Option String :=
  ((fragment.get? "items").getD fragment).text? "$ref"

/-- Binds a declared link to the fragment of its field. -/
def bind (name field : String) (template : Option String) (classname : String)
    (fragment declaration : Json) (subject : String) : Except Error Link := do
  let target ← match targetOf? fragment with
    | some target => pure target
    | none => throw (.malformed subject .noReference)
  let declared ← Declaration.optionalList declaration "Parameters" subject
  let parameters ← declared.mapM fun parameter => LinkParameter.parse parameter name
  return { name, template, field, classname, target, parameters, getter := getterOf fragment }

/-- The fragment of a linked field: the property `name` of the definition `field`. -/
def fieldIn? (spec : Json) (field name : String) : Option Json :=
  (((spec.get? "definitions").bind (·.get? field)).bind (·.get? "properties")).bind (·.get? name)

/-- Whether a schema fragment lists a template among its ids. -/
def lists (fragment : Json) (template : String) : Bool :=
  ((fragment.items? "uris").getD []).any fun uri => uri.string? = some template

/-- Builds a declared link and checks its template. -/
def build (assets : Assets) (scope : Scope) (declaration : Json) : Step Session Link := do
  let name ← Step.ofExcept
    (Declaration.requiredText declaration "Name" ("Links of " ++ scope.owner))
  let subject := "link '" ++ name ++ "' of " ++ scope.owner
  let template ← Step.ofExcept (Declaration.requiredText declaration "Template" subject)
  let field := (declaration.text? "Field").getD defaultField
  let leading := (declaration.text? "Classname").getD ""
  let fragment ← Step.require (fieldIn? scope.spec field name)
    (.malformed subject (.undeclaredLink name field))
  let link ← Step.ofExcept
    (bind name field (some template) (leading ++ name ++ "Links") fragment declaration subject)
  let found ← Resolution.resolve assets fragment (some scope.spec) false
  let target ← Step.require found (.unresolved link.target)
  if lists target template then return link
  else throw (.invalidTemplate template name)

/-- The fragment that related items of an owner are bound to. -/
def relatedItemIn? (scope : Scope) : Option Json :=
  let owner := match scope.spec.get? "definitions" with
    | some definitions => definitions.get? scope.owner
    | none => some scope.spec
  (owner.bind (·.get? "properties")).bind (·.get? relatedItemField)

/-- Builds a declared related item. -/
def buildRelatedItem (scope : Scope) (declaration : Json) : Except Error Link := do
  let name ← Declaration.requiredText declaration "Name" ("RelatedItems of " ++ scope.owner)
  let subject := "related item '" ++ name ++ "' of " ++ scope.owner
  match relatedItemIn? scope with
  | some fragment =>
    bind name relatedItemField (declaration.text? "Template") (name ++ "Reference") fragment
      declaration subject
  | none => .error (.malformed subject (.undeclaredItem relatedItemField))

/-- A link as a value of a model. -/
def toJson (link : Link) : Json :=
  .object ([("name", .string link.name)] ++
    Json.optionalRow "template" (link.template.map .string) ++
    [("field", .string link.field), ("classname", .string link.classname),
      ("getter", link.getter.toJson), ("target", .string link.target),
      ("parameters", .array (link.parameters.map LinkParameter.toJson))])

end Link

end ResourceModel

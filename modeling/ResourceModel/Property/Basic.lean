import ResourceModel.Property.Annotation
import ResourceModel.Property.Entity
import ResourceModel.Property.Enumeration
import ResourceModel.Property.Kind
import ResourceModel.Property.Link
import ResourceModel.Property.Static

set_option autoImplicit false

/-! # Properties

A property of a resource, and sets of properties. A set lists its properties kind by kind, those of
one kind in declaration order. -/

namespace ResourceModel

/-- What a vendor extension adds to its owner, besides its properties. -/
structure ExtensionHead where
  name : String
  /-- The tag of the version of the extension's document. -/
  tag : String
  parent : String
  owningEntity : Option String
  deriving DecidableEq, Repr

/-- The type that an extension has in a resource. -/
def ExtensionHead.typeTag (head : ExtensionHead) : String :=
  "#" ++ head.name ++ "." ++ head.tag ++ "." ++ head.parent

/-- A property. -/
inductive Property where
  | static (property : StaticProperty)
  | entity (source : EntitySource)
  /-- A nested object of its parent, with properties of its own. -/
  | fragments (name parent : String) (properties : List Property)
  /-- A list of backing entities, each shown as a nested object. -/
  | collection (name parent : String) (source : EntitySource) (properties : List Property)
  | enums (enumeration : Enumeration)
  | oem (head : ExtensionHead) (properties : List Property)
  | links (link : Link)
  | annotations (item : Annotation)
  | relatedItems (link : Link)

/-- Properties, kind by kind in the order of the kinds. -/
abbrev PropertySet := List Property

namespace Property

/-- The kind of a property. -/
def kind : Property → PropertyKind
  | static _ => .static
  | entity _ => .entity
  | fragments _ _ _ => .fragments
  | collection _ _ _ _ => .collection
  | enums _ => .enums
  | oem _ _ => .oem
  | links _ => .links
  | annotations _ => .annotations
  | relatedItems _ => .relatedItems

/-- The class of a collection. -/
def collectionClass (name : String) : String :=
  name ++ "CollectionGetter"

end Property

namespace PropertySet

/-- The properties of one kind. -/
def ofKind (properties : PropertySet) (kind : PropertyKind) : List Property :=
  properties.filter fun property => property.kind = kind

/-- The set of properties that were built in another order of the kinds. -/
def assemble (properties : List Property) : PropertySet :=
  PropertyKind.ofNode.flatMap (ofKind properties)

/-- The name of an extension. -/
def oemName? : Property → Option String
  | .oem head _ => some head.name
  | _ => none

/-- The names of the extensions in a set. -/
def oemNames (properties : PropertySet) : List String :=
  properties.filterMap oemName?

/-- The link of a linking property. -/
def link? : Property → Option Link
  | .links link => some link
  | _ => none

/-- The links in a set. -/
def links (properties : PropertySet) : List Link :=
  properties.filterMap link?

/-- The class of a collection. -/
def collectionClass? : Property → Option String
  | .collection name _ _ _ => some (Property.collectionClass name)
  | _ => none

/-- The classes of the collections in a set. -/
def collectionClasses (properties : PropertySet) : List String :=
  properties.filterMap collectionClass?

/-- The rows of a set as a value of a model: a row for each kind that it has properties of. -/
def rowsOf (tagged : List (PropertyKind × Json)) : List (String × Json) :=
  PropertyKind.ofNode.filterMap fun kind =>
    let values := (tagged.filter fun row => row.1 = kind).map (·.2)
    if values.isEmpty then none else some (kind.tag, .array values)

end PropertySet

namespace Property

/-- A nested object as a value of a model. -/
def groupToJson (name parent : String) (properties : Json) : Json :=
  .object [("name", .string name), ("parent", .string parent), ("properties", properties)]

/-- An extension as a value of a model. -/
def oemToJson (head : ExtensionHead) (properties : Json) : Json :=
  .object ([("name", .string head.name), ("version", .string head.tag),
    ("parent", .string head.parent), ("type_tag", .string head.typeTag)] ++
    Json.optionalRow "owning_entity" (head.owningEntity.map .string) ++
    [("properties", properties)])

mutual

/-- A property as a value of a model. -/
def toJson : Property → Json
  | static property => property.toJson
  | entity source => source.toJson
  | fragments name parent properties =>
    groupToJson name parent (.object (PropertySet.rowsOf (taggedJson properties)))
  | collection name parent source properties =>
    .object [("name", .string name), ("classname", .string (collectionClass name)),
      ("source", source.toJson),
      ("element",
        groupToJson name parent (.object (PropertySet.rowsOf (taggedJson properties))))]
  | enums enumeration => enumeration.toJson
  | oem head properties =>
    oemToJson head (.object (PropertySet.rowsOf (taggedJson properties)))
  | links link => link.toJson
  | annotations item => item.toJson
  | relatedItems link => link.toJson

/-- Properties as values of a model, with their kinds. -/
def taggedJson : List Property → List (PropertyKind × Json)
  | [] => []
  | property :: rest => (property.kind, toJson property) :: taggedJson rest

end

end Property

/-- A set of properties as a value of a model. -/
def PropertySet.toJson (properties : PropertySet) : Json :=
  .object (rowsOf (Property.taggedJson properties))

end ResourceModel

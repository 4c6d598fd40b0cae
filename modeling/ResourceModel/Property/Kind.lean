set_option autoImplicit false

/-! # Property kinds

The keys under which a declaration lists its properties. -/

namespace ResourceModel

/-- A kind of property, in the order in which a set lists its kinds. -/
inductive PropertyKind where
  | static
  | entity
  | fragments
  | collection
  | enums
  | oem
  | links
  | annotations
  | relatedItems
  deriving DecidableEq, Repr

namespace PropertyKind

/-- The key of a kind. -/
def tag : PropertyKind → String
  | static => "Static"
  | entity => "Entity"
  | fragments => "Fragments"
  | collection => "Collection"
  | enums => "Enums"
  | oem => "Oem"
  | links => "Links"
  | annotations => "Annotations"
  | relatedItems => "RelatedItems"

/-- The kinds of a node, in the order in which they are built. -/
def ofNode : List PropertyKind :=
  [static, entity, fragments, collection, enums, oem, links, annotations, relatedItems]

/-- The kinds of a group of properties inside a node, in the order in which they are built. -/
def ofGroup : List PropertyKind :=
  [static, entity, collection, annotations, fragments, enums, relatedItems, oem]

/-- The kind of a key. -/
def ofTag? (tag : String) : Option PropertyKind :=
  ofNode.find? fun kind => kind.tag = tag

@[simp]
theorem ofTag?_tag (kind : PropertyKind) : ofTag? kind.tag = some kind := by
  cases kind <;> rfl

end PropertyKind

end ResourceModel

import ResourceModel.Reference

set_option autoImplicit false

/-! # Schema fragments

A fragment describes a value: it may declare a type, carry a reference to another fragment, or
both. A union carries the reference of its last alternative that has one, a list that of its
items. -/

namespace ResourceModel

/-- What a fragment says about its values. -/
inductive SemanticType where
  | boolean
  | integer
  | number
  | string
  | enumeration
  | array
  | object
  | unrecognized
  | other (tag : String)
  deriving DecidableEq, Repr

namespace SemanticType

/-- The type of a tag. -/
def ofTag (tag : String) : SemanticType :=
  if tag = "boolean" then boolean
  else if tag = "integer" then integer
  else if tag = "number" then number
  else if tag = "string" then string
  else if tag = "enum" then enumeration
  else if tag = "array" then array
  else if tag = "object" then object
  else if tag = "unrecognized" then unrecognized
  else other tag

/-- The tag of a type. -/
def tag : SemanticType → String
  | boolean => "boolean"
  | integer => "integer"
  | number => "number"
  | string => "string"
  | enumeration => "enum"
  | array => "array"
  | object => "object"
  | unrecognized => "unrecognized"
  | other tag => tag

end SemanticType

namespace Fragment

/-- The reference of the last alternative of a union that has one. -/
def lastReference? (alternatives : List Json) : Option String :=
  (alternatives.filterMap fun alternative => alternative.text? "$ref").getLast?

/-- The reference that a fragment carries: that of the union if it is one, else its own, else that
    of its items. -/
def reference? (fragment : Json) : Option String :=
  match fragment.items? "anyOf" with
  | some alternatives => lastReference? alternatives
  | none =>
    match fragment.text? "$ref" with
    | some raw => some raw
    | none =>
      match _h : fragment.get? "items" with
      | some items => reference? items
      | none => none
termination_by sizeOf fragment
decreasing_by exact Json.sizeOf_get?_lt _h

/-- The type that a fragment declares. A string with listed values is an enumeration, and of a list
    of types the first one counts. -/
def type? (fragment : Json) : Option SemanticType :=
  match fragment.get? "type" with
  | some (.string tag) =>
    if tag = "string" ∧ fragment.has "enum" then some .enumeration else some (.ofTag tag)
  | some (.array tags) => (tags.head?.bind Json.string?).map .ofTag
  | _ => none

/-- The name of the type that a fragment refers to, the last key of its reference. -/
def typeName? (fragment : Json) : Option String :=
  match reference? fragment with
  | some raw =>
    match Reference.parse raw with
    | .ok reference => reference.lastSegment?
    | .error _ => none
  | none => none

end Fragment

end ResourceModel

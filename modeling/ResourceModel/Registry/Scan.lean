import ResourceModel.Json.Basic

set_option autoImplicit false

/-! # Scanning for references

The references in a map of properties: those in a property's alternatives, that of its items or
else its own, and those in the properties nested in it. Only so many levels are scanned; a map that
nests deeper is scanned up to the place where that shows. -/

namespace ResourceModel

/-- The references that a scan found, in their order, and whether it came to its end. -/
structure Scan where
  references : List String
  complete : Bool
  deriving DecidableEq, Repr

namespace Scan

/-- A scan followed by another one, unless the first one broke off. -/
def followedBy (first second : Scan) : Scan :=
  if first.complete then ⟨first.references ++ second.references, second.complete⟩ else first

/-- Scans one after the other, up to one that breaks off. -/
def all : List Scan → Scan
  | [] => ⟨[], true⟩
  | scan :: rest => scan.followedBy (all rest)

/-- The references of the alternatives of a property. -/
def ofAlternatives (property : Json) : List String :=
  ((property.items? "anyOf").getD []).filterMap fun alternative => alternative.text? "$ref"

/-- What is scanned of a property besides its alternatives: its items, or else the property. -/
def element (property : Json) : Json :=
  (property.get? "items").getD property

/-- The references of a property itself. -/
def ofProperty (property : Json) : List String :=
  ofAlternatives property ++ ((element property).text? "$ref").toList

/-- Scans a map of properties that may nest so many levels. What is not a map holds none. -/
def ofProperties : Nat → Json → Scan
  | 0, _ => ⟨[], false⟩
  | levels + 1, properties =>
    all (((properties.object?).getD []).map fun row =>
      (Scan.mk (ofProperty row.2) true).followedBy
        (match (element row.2).get? "properties" with
          | some nested => ofProperties levels nested
          | none => ⟨[], true⟩))

/-- Scans the definitions of a document. A document without definitions holds no references. -/
def ofDocument (levels : Nat) (document : Json) : Scan :=
  match document.get? "definitions" with
  | some definitions => ofProperties levels definitions
  | none => ⟨[], true⟩

end Scan

end ResourceModel

import ResourceModel.Standard
import ResourceModel.Url.Resolve
import ResourceModel.Version

set_option autoImplicit false

/-! # References

A reference names a place: a document, by its file stem, and a pointer into it. A reference that
starts with `#` stays in the document that holds it. -/

namespace ResourceModel

/-- A reference that has been read. -/
structure Reference where
  raw : String
  /-- The file stem of the document; none for a reference into the same document. -/
  stem? : Option String
  pointer : List String
  standard : Standard
  deriving DecidableEq, Repr

namespace Reference

/-- The keys that a fragment lists between slashes. -/
def pointerOf (fragment : String) : List String :=
  nonEmptyParts fragment '/'

/-- Reads a reference. -/
def parse (raw : String) : Except Error Reference :=
  match textAfter? "#" raw with
  | some fragment => .ok ⟨raw, none, pointerOf fragment, .redfish⟩
  | none =>
    match Url.resolve? raw.toList with
    | none => .error (.lookup (.invalidReference raw))
    | some target =>
      let file := String.ofList target.segment
      let stem := (textBefore? ".json" file).getD file
      if stem = "" then .error (.lookup (.namesNoDocument raw))
      else .ok ⟨raw, some stem, pointerOf (String.ofList target.fragment), Standard.ofUri raw⟩

/-- The schema id of the document. -/
def schemaId? (reference : Reference) : Option String :=
  reference.stem?.map stemId

/-- The last key of the pointer. -/
def lastSegment? (reference : Reference) : Option String :=
  reference.pointer.getLast?

/-- Whether the reference stays in the document that holds it. -/
def isLocal (reference : Reference) : Bool :=
  reference.stem?.isNone

/-- Whether the reference points at an id, and so is never followed further. -/
def isIdRef (reference : Reference) : Bool :=
  (textBefore? "/idRef" reference.raw).isSome

end Reference

end ResourceModel

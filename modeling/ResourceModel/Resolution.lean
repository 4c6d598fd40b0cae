import ResourceModel.Fragment
import ResourceModel.Pointer
import ResourceModel.Session

set_option autoImplicit false

/-! # Following references

A fragment is followed along its references to the fragment that describes it, or to the document
that this one lies in. A chase is bounded by a number of hops and never takes the same hop twice. It
registers what the documents mention in which it walks. -/

namespace ResourceModel.Resolution

/-- A hop of a chase: the stem of the document that is walked, if it has one, and the pointer. -/
structure Hop where
  document : Option String
  pointer : List String
  deriving DecidableEq, Repr

/-- The hop along a reference from a document with the given stem. -/
def Hop.along (reference : Reference) (stem : Option String) : Hop :=
  ⟨reference.stem?.or stem, reference.pointer⟩

/-! ## Documents -/

/-- The reference at which a document continues a chase along a reference, if there is one. -/
def continuation? (document : Json) (reference : Reference) : Except Error (Option Reference) :=
  match Fragment.reference? (Pointer.lenient document reference.pointer) with
  | some raw => (Reference.parse raw).map some
  | none => .ok none

/-- Follows references from document to document, at most the given number of hops. A chase ends at
    the last document that was found: at a missing document, a reference into the same document, one
    that points at an id, and at a hop that was taken before. -/
def followDocuments (assets : Assets) :
    (hops : Nat) → (taken : List Hop) → Reference → (current : Json) → Step Store Json
  | 0, _, _, current => return current
  | hops + 1, taken, reference, current => do
    let hop := Hop.along reference none
    if hop ∈ taken then return current
    else
      match ← Store.target assets reference with
      | none => return current
      | some document =>
        match ← Step.ofExcept (continuation? document reference) with
        | none => return document
        | some next =>
          if next.isIdRef || next.isLocal then return document
          else followDocuments assets hops (hop :: taken) next document

/-- The document that holds what a fragment refers to. Without a reference it is the enclosing
    document. Where the first document is missing it is the enclosing one with `fallback`, the
    fragment otherwise. -/
def documentOf (assets : Assets) (fragment : Json) (enclosing : Option Json) (fallback : Bool) :
    Step Store Json :=
  match enclosing with
  | none => return fragment
  | some document =>
    match Fragment.reference? fragment with
    | none => return document
    | some raw => do
      let reference ← Step.ofExcept (Reference.parse raw)
      let hops := assets.config.limits.referenceHops
      -- without hops no document is looked for, so none is missing
      let start := if fallback || hops == 0 then document else fragment
      followDocuments assets hops [] reference start

/-! ## Fragments -/

/-- Where a chase has come to: a fragment, the document it lies in, and the stem of the last
    document that was named. -/
structure Spot where
  fragment : Json
  document : Json
  stem : Option String

/-- The document that a reference names, seen from a document. -/
def targetFrom (assets : Assets) (reference : Reference) (document : Json) :
    Step Store (Option Json) :=
  if reference.isLocal then return some document
  else Store.target assets reference

/-- The schema that owns the definitions in which a reference is walked. -/
def ownerOf? (reference : Reference) (stem : Option String) : Option String :=
  reference.schemaId?.or (stem.map stemId)

/-- A reference that is walked: the stem of the document that was named before it, and the document
    that it leads into. -/
structure Walk where
  reference : Reference
  stem : Option String
  document : Json

namespace Walk

/-- The hop that a walk takes. -/
def hop (walk : Walk) : Hop :=
  .along walk.reference walk.stem

/-- The fragment at the end of a walk, if every key of the pointer is there. -/
def located? (walk : Walk) : Option Json :=
  Pointer.strict? walk.document walk.reference.pointer

/-- Where a walk comes to that ends at a fragment. -/
def spot (walk : Walk) (fragment : Json) : Spot :=
  ⟨fragment, walk.document, walk.reference.stem?.or walk.stem⟩

end Walk

/-- What is done at a spot: the chase ends, or a reference is walked. -/
inductive Turn where
  | ended (found : Option Json)
  | walked (walk : Walk)

/-- Decides what is done at a spot, and registers what a walked document mentions. A chase ends well
    at a fragment without a reference, and after the first hop at one whose reference points at an
    id or names a missing document, or at once if it is not recursive. -/
def turn (assets : Assets) (recursive : Bool) (taken : List Hop) (spot : Spot) :
    Step Session Turn :=
  match Fragment.reference? spot.fragment with
  | none => return .ended (some spot.fragment)
  | some raw =>
    let first := taken.isEmpty
    if !first && !recursive then return .ended (some spot.fragment)
    else do
      let reference ← Step.ofExcept (Reference.parse raw)
      if !first && reference.isIdRef then return .ended (some spot.fragment)
      else if Hop.along reference spot.stem ∈ taken then return .ended none
      else
        match ← Session.reading (targetFrom assets reference spot.document) with
        | none => return .ended (if first then none else some spot.fragment)
        | some document =>
          Session.registering
            (Registry.extractDefinitions assets (ownerOf? reference spot.stem) document)
          return .walked ⟨reference, spot.stem, document⟩

/-- Follows references from fragment to fragment, at most the given number of hops. -/
def followFragments (assets : Assets) (recursive : Bool) :
    (hops : Nat) → (taken : List Hop) → Spot → Step Session (Option Json)
  | 0, _, _ => return none
  | hops + 1, taken, spot => do
    match ← turn assets recursive taken spot with
    | .ended found => return found
    | .walked walk =>
      match walk.located? with
      | none => return none
      | some fragment =>
        followFragments assets recursive hops (walk.hop :: taken) (walk.spot fragment)

/-- The fragment that a fragment refers to, seen from an enclosing document; the fragment itself if
    there is no such document. -/
def resolve (assets : Assets) (fragment : Json) (enclosing : Option Json) (recursive : Bool) :
    Step Session (Option Json) :=
  match enclosing with
  | none => return some fragment
  | some document =>
    followFragments assets recursive assets.config.limits.referenceHops []
      ⟨fragment, document, none⟩

/-- The type of a fragment: the one it declares, or that of the fragment it refers to. -/
def typeOf (assets : Assets) (fragment : Json) (enclosing : Option Json) :
    Step Session SemanticType :=
  match Fragment.type? fragment with
  | some type => return type
  | none => do
    let resolved ← resolve assets fragment enclosing true
    return (resolved.bind Fragment.type?).getD .unrecognized

end ResourceModel.Resolution

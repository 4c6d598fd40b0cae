import ResourceModel.Assets
import ResourceModel.Reference
import ResourceModel.Step

set_option autoImplicit false

/-! # The documents of a run

A run reads each document once: what was found for a stem, also that there is nothing, is kept. A
document that a node was built on is bound to its schema id and goes before the bundle when
references are followed. A reading that fails keeps nothing. -/

namespace ResourceModel

/-- The documents that a run has read, and those bound to schema ids. -/
structure Store where
  documents : List ((Standard × String) × Option Json)
  extensions : List (String × Option Json)
  bound : Table Json

namespace Store

/-- Nothing has been read. -/
def empty : Store :=
  ⟨[], [], []⟩

/-- What was found under a key before, or else what is found now, which is then kept. -/
def cached {κ : Type} [BEq κ] (key : κ) (found : Except Error (Option Json)) :
    Step (List (κ × Option Json)) (Option Json) := do
  match (← get).lookup key with
  | some kept => return kept
  | none =>
    let found ← Step.ofExcept found
    modify fun rows => (key, found) :: rows
    return found

/-- The schema document of a stem; none if there is no file for it. -/
def load (assets : Assets) (standard : Standard) (stem : String) : Step Store (Option Json) :=
  (cached (standard, stem) (assets.document? standard stem)).onPart documents
    fun store documents => { store with documents }

/-- The schema document of a stem, which has to be there. -/
def require (assets : Assets) (standard : Standard) (stem : String) : Step Store Json := do
  Step.require (← load assets standard stem) (assets.missingJson standard stem)

/-- An extension document; none if there is no file for it. -/
def loadExtension (assets : Assets) (name tag : String) : Step Store (Option Json) :=
  (cached (Assets.extensionStem name tag) (assets.extension? name tag)).onPart extensions
    fun store extensions => { store with extensions }

/-- An extension document, which has to be there. -/
def requireExtension (assets : Assets) (name tag : String) : Step Store Json := do
  Step.require (← loadExtension assets name tag)
    (.missingDocument (assets.extensionPath name tag) none)

/-- Binds a document to a schema id. -/
def bind (store : Store) (id : String) (document : Json) : Store :=
  { store with bound := Table.put store.bound id document }

/-- The document that a reference names: the one bound to its stem, or else that of the bundle. A
    reference into the same document names none. -/
def target (assets : Assets) (reference : Reference) : Step Store (Option Json) := do
  match reference.stem? with
  | none => return none
  | some stem =>
    match Table.get? (← get).bound stem with
    | some document => return some document
    | none => load assets reference.standard stem

end Store

end ResourceModel

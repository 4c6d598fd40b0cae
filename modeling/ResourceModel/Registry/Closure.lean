import ResourceModel.Session

set_option autoImplicit false

/-! # The closure of the registry

Once every node is built the registry is completed: the schemas that are always emitted and the
documents of the extension area are registered, and then, pass by pass, what the documents of
pending entries mention. Each pass resolves the entries that were pending when it began; the number
of passes is bounded. -/

namespace ResourceModel.Registry

/-! ## Seeds -/

/-- Registers a schema that is always emitted, with its latest version, unless it has an entry. -/
def seed (assets : Assets) (id standardName : String) : Step Registry Unit := do
  let standard ← Step.ofExcept (Standard.ofName standardName)
  modify fun registry =>
    if (registry.get? id).isSome then registry
    else registry.register (.pending standard id (assets.latestVersion? standard id))

/-- Registers the schemas that are always emitted, in the order of their ids. -/
def seedBaseline (assets : Assets) : List (String × String) → Step Registry Unit :=
  Step.each fun row => seed assets row.1 row.2

/-- Registers an extension document and what it mentions. -/
def seedExtension (assets : Assets) (extension : Assets.ExtensionDocument) :
    Step Session Unit := do
  let document ← Session.reading do
    Step.require (← Store.loadExtension assets extension.id extension.version.tag)
      (.missingDocument extension.path none)
  Session.registering do
    modify fun registry =>
      registry.register (.ofExtension extension.id extension.version (some document))
    extractDefinitions assets (some extension.id) document

/-- Registers extension documents, one after the other. -/
def seedExtensions (assets : Assets) : List Assets.ExtensionDocument → Step Session Unit :=
  Step.each (seedExtension assets)

/-! ## Passes -/

/-- The document of an entry: the one it holds, or else that of its place. -/
def documentOf (assets : Assets) (entry : Entry) : Step Store Json :=
  match entry.document, entry.origin with
  | some document, _ => return document
  | none, .bundle => Store.require assets entry.standard entry.stem
  | none, .extension =>
    Store.requireExtension assets entry.id ((entry.version.map Version.tag).getD "")

/-- Whether two entries have the same version, or both have none. -/
def sameVersion : Option Version → Option Version → Bool
  | none, none => true
  | some a, some b => a.same b
  | _, _ => false

/-- The registry with an entry marked as resolved, unless it has got another version meanwhile. -/
def settle (registry : Registry) (entry : Entry) (document : Json) : Registry :=
  match registry.get? entry.id with
  | some current =>
    if sameVersion current.version entry.version then
      { registry with
        entries := Table.put registry.entries entry.id
          { current with resolved := true, document := some document } }
    -- a versioned entry has taken the place of this one, and is still to be resolved itself
    else registry
  | none => registry

/-- Reads the document of an entry, registers what it mentions, and marks the entry as resolved. -/
def resolve (assets : Assets) (id : String) : Step Session Unit := do
  match (← get).registry.get? id with
  | none => return ()
  | some entry =>
    let document ← Session.reading (documentOf assets entry)
    Session.registering do
      extractDefinitions assets (some id) document
      modify fun registry => registry.settle entry document

/-- Resolves entries, one after the other. -/
def resolveAll (assets : Assets) : List String → Step Session Unit :=
  Step.each (resolve assets)

/-- Resolves the pending entries until there are none; so many passes are left. -/
def close (assets : Assets) : Nat → Step Session Unit
  | 0 => do
    let pending := (← get).registry.pending
    if pending.isEmpty then return ()
    else throw (.notConverged assets.config.limits.closurePasses pending)
  | passes + 1 => do
    let pending := (← get).registry.pending
    if pending.isEmpty then return ()
    else
      resolveAll assets pending
      close assets passes

/-- Completes the registry. -/
def finalize (assets : Assets) : Step Session Unit := do
  Session.registering (seedBaseline assets assets.config.registry.baseline)
  seedExtensions assets assets.extensionDocuments
  close assets assets.config.limits.closurePasses

end ResourceModel.Registry

import ResourceModel.Assets
import ResourceModel.Registry.Mention
import ResourceModel.Registry.Scan
import ResourceModel.Step

set_option autoImplicit false

/-! # The registry of schemas

The schemas that a run touches, one entry for each schema id, and the graph of their dependencies.
A versioned entry is never replaced; an unversioned one gives way to a versioned one only. Every id
that was ever registered is known to the graph. -/

namespace ResourceModel

/-- Where the document of a schema lies. -/
inductive Origin where
  | bundle
  | extension
  deriving DecidableEq, Repr

/-- A registered schema. It is resolved once the references of its document are registered. -/
structure Entry where
  standard : Standard
  id : String
  version : Option Version
  resolved : Bool
  document : Option Json
  origin : Origin

namespace Entry

/-- A schema of a bundle that is still to be resolved. -/
def pending (standard : Standard) (id : String) (version : Option Version) : Entry :=
  ⟨standard, id, version, false, none, .bundle⟩

/-- A schema of a bundle that is known with its document. -/
def known (standard : Standard) (id : String) (version : Option Version) (document : Json) :
    Entry :=
  ⟨standard, id, version, true, some document, .bundle⟩

/-- A schema of the extension area that is still to be resolved. -/
def ofExtension (id : String) (version : Version) (document : Option Json) : Entry :=
  ⟨.redfish, id, some version, false, document, .extension⟩

/-- The file stem of a schema. -/
def stem (entry : Entry) : String :=
  stemOf entry.id entry.version

end Entry

/-- The registered schemas, the ids that the graph knows, and its edges. -/
structure Registry where
  entries : Table Entry
  ids : List String
  edges : List (String × String)

namespace Registry

/-- No schemas. -/
def empty : Registry :=
  ⟨[], [], []⟩

/-- The entry of a schema id. -/
def get? (registry : Registry) (id : String) : Option Entry :=
  Table.get? registry.entries id

/-- The ids of the schemas that are still to be resolved, in ascending order. -/
def pending (registry : Registry) : List String :=
  (registry.entries.filter fun row => !row.2.resolved).map (·.1)

/-! ## Registering -/

/-- Whether an entry would be taken: there is none of its id, or an unversioned one and it has a
    version. -/
def accepts (registry : Registry) (entry : Entry) : Bool :=
  match registry.get? entry.id with
  | some existing => existing.version.isNone && entry.version.isSome
  | none => true

/-- The registry with an id known to the graph. -/
def mention (registry : Registry) (id : String) : Registry :=
  if id ∈ registry.ids then registry else { registry with ids := registry.ids ++ [id] }

/-- The registry with an entry, if it is taken. -/
def register (registry : Registry) (entry : Entry) : Registry :=
  let mentioned := registry.mention entry.id
  if registry.accepts entry then
    { mentioned with entries := Table.put mentioned.entries entry.id entry }
  else mentioned

/-- Whether there is a versioned entry of an id. -/
def isVersioned (registry : Registry) (id : String) : Bool :=
  (registry.get? id).any fun entry => entry.version.isSome

/-- Whether a version of a schema has a document in its bundle. -/
def inBundle (assets : Assets) (standard : Standard) (id : String) (version : Option Version) :
    Bool :=
  version.isSome && (assets.jsonPath? standard (stemOf id version)).isSome

/-- The version that a mention asks for: that of its tag, or else the latest one in the bundle. -/
def wantedVersion? (assets : Assets) (mentioned : Mention) : Option Version :=
  (mentioned.tag.bind Version.parse?).or (assets.latestVersion? mentioned.standard mentioned.id)

/-- The entry of a schema that is mentioned. The extension area counts where the bundle has no
    document of the version. -/
def entryOf (assets : Assets) (mentioned : Mention) : Entry :=
  let version := wantedVersion? assets mentioned
  if inBundle assets mentioned.standard mentioned.id version then
    .pending mentioned.standard mentioned.id version
  else match assets.findExtension? mentioned.id version with
    | some document => .ofExtension mentioned.id document.version none
    | none => .pending mentioned.standard mentioned.id version

/-- Registers a schema that is mentioned, unless there is a versioned entry of it. -/
def registerMention (assets : Assets) (registry : Registry) (mentioned : Mention) : Registry :=
  if registry.isVersioned mentioned.id then registry
  else registry.register (entryOf assets mentioned)

/-- Registers the schema that a reference mentions, if it mentions one. -/
def registerReference (assets : Assets) (registry : Registry) (uri : String) : Registry :=
  match Mention.ofUri? uri with
  | some mentioned => registry.registerMention assets mentioned
  | none => registry

/-! ## Dependencies -/

/-- The registry with an edge, unless it has it. -/
def addEdge (registry : Registry) (source target : String) : Registry :=
  let registry := (registry.mention source).mention target
  if (source, target) ∈ registry.edges then registry
  else { registry with edges := registry.edges ++ [(source, target)] }

/-- Registers the schema that a reference mentions, and that its owner depends on it. -/
def addDependency (assets : Assets) (owner : Option String) (registry : Registry)
    (uri : String) : Registry :=
  match Mention.ofUri? uri with
  | none => registry
  | some mentioned =>
    let registry := registry.registerMention assets mentioned
    match owner with
    | some owner =>
      if owner = mentioned.id then registry else registry.addEdge owner mentioned.id
    | none => registry

/-- Registers the schemas that references mention, one after the other. -/
def addDependencies (assets : Assets) (owner : Option String) (registry : Registry)
    (uris : List String) : Registry :=
  uris.foldl (addDependency assets owner) registry

/-- Registers every schema that the references of a scan mention. It fails where the scan broke
    off, with what was found before that registered. -/
def addScan (assets : Assets) (owner : Option String) (scan : Scan) : Step Registry Unit := do
  modify fun registry => registry.addDependencies assets owner scan.references
  if scan.complete then return ()
  else throw (.nestingTooDeep assets.config.limits.nestingDepth)

/-- Registers every schema that a map of properties mentions. -/
def extract (assets : Assets) (owner : Option String) (properties : Json) :
    Step Registry Unit :=
  addScan assets owner (Scan.ofProperties assets.config.limits.nestingDepth properties)

/-- Registers every schema that the definitions of a document mention. -/
def extractDefinitions (assets : Assets) (owner : Option String) (document : Json) :
    Step Registry Unit :=
  addScan assets owner (Scan.ofDocument assets.config.limits.nestingDepth document)

/-! ## Views -/

/-- Adds a text at its place in ascending order. -/
def insertText (text : String) : List String → List String
  | [] => [text]
  | other :: rest => if other < text then other :: insertText text rest else text :: other :: rest

/-- The texts in ascending order. -/
def sortTexts (texts : List String) : List String :=
  texts.foldr insertText []

/-- The schema ids that a schema depends on, in ascending order. -/
def dependencies (registry : Registry) (id : String) : List String :=
  sortTexts ((registry.edges.filter fun edge => edge.1 = id).map (·.2))

end Registry

end ResourceModel

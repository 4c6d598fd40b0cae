import ResourceModel.Config
import ResourceModel.Csdl
import ResourceModel.FileTree
import ResourceModel.Json.Parser
import ResourceModel.Suggestion
import ResourceModel.Version
import ResourceModel.Yaml.Value

set_option autoImplicit false

/-! # Assets

The documents that a run can read: schema documents of the bundles and of the extension area,
interface descriptions and metadata documents. Everything here reads the files and changes
nothing. -/

namespace ResourceModel

/-- The files that a run sees, and the configuration that says where its documents lie and how far
    they are followed. -/
structure Assets where
  files : FileTree
  config : Config

namespace Assets

/-- Where the documents lie. -/
def layout (assets : Assets) : AssetLayout :=
  assets.config.assets

/-! ## Schema documents of a bundle -/

/-- The name under which the files of a schema id are stored. -/
def fileId (assets : Assets) (id : String) : String :=
  (Table.get? assets.config.registry.fileMap id).getD id

/-- The stem under which the document of a stem is stored. -/
def storedStem (assets : Assets) (stem : String) : String :=
  match splitStem stem with
  | (id, some tag) => assets.fileId id ++ "." ++ tag
  | (id, none) => assets.fileId id

/-- The path of the schema document with a stored stem. -/
def jsonFile (assets : Assets) (standard : Standard) (stem : String) : Path :=
  (assets.layout.jsonSchemaDir standard).child (stem ++ ".json")

/-- The stem with dots in the place of a tag's underscores, as some bundles have it. -/
def dottedStem? (stem : String) : Option String :=
  match splitStem stem with
  | (id, some tag) =>
    (textAfter? "v" tag).map fun numbers => id ++ "." ++ replacePiece numbers "_" "."
  | (_, none) => none

/-- The path, if it names a file. -/
def existing? (assets : Assets) (path : Path) : Option Path :=
  if assets.files.isFile path then some path else none

/-- The path of the schema document of a stem. The spelling of the version with dots counts where
    there is no file for the tag. -/
def jsonPath? (assets : Assets) (standard : Standard) (stem : String) : Option Path :=
  let stored := assets.storedStem stem
  (assets.existing? (assets.jsonFile standard stored)).or
    ((dottedStem? stored).bind fun dotted => assets.existing? (assets.jsonFile standard dotted))

/-- Reads the schema document in a file. -/
def readJson (assets : Assets) (path : Path) (stem : String) : Except Error Json :=
  match assets.files.text? path with
  | none => .error .notText
  | some text =>
    match Json.parse text with
    | some document => .ok document
    | none => .error (.corrupted stem .notJson)

/-- The schema document of a stem; none if there is no file for it. -/
def document? (assets : Assets) (standard : Standard) (stem : String) :
    Except Error (Option Json) :=
  match assets.jsonPath? standard stem with
  | some path => (assets.readJson path stem).map some
  | none => .ok none

/-! ## Names -/

/-- The score of a name as a correction of another one: either may hold the characters of the
    other in order. -/
def likeness? (candidate name : String) : Option Int :=
  (Suggestion.score? candidate name).or (Suggestion.score? name candidate)

/-- The better one of a correction and a further candidate; the earlier one if they are alike. -/
def better (name : String) (best : Option (Int × String)) (candidate : String) :
    Option (Int × String) :=
  match likeness? candidate name, best with
  | none, best => best
  | some score, none => some (score, candidate)
  | some score, some (bestScore, bestName) =>
    if bestScore < score then some (score, candidate) else some (bestScore, bestName)

/-- The schema id in a bundle that is most like a name. -/
def suggest? (assets : Assets) (standard : Standard) (name : String) : Option String :=
  let entries := assets.files.list (assets.layout.jsonSchemaDir standard)
  let candidates := entries.map fun entry => stemId (Path.stemOfName entry.1)
  (candidates.foldl (better name) none).map (·.2)

/-- The error for a document of a stem that is not at its path. It names the schema id that may
    have been meant. -/
def missing (assets : Assets) (path : Path) (standard : Standard) (stem : String) : Error :=
  let id := stemId stem
  .missingDocument path ((assets.suggest? standard id).filter (· ≠ id))

/-- The error for a schema document that is not in its bundle. -/
def missingJson (assets : Assets) (standard : Standard) (stem : String) : Error :=
  assets.missing (assets.jsonFile standard (assets.storedStem stem)) standard stem

/-! ## Versions -/

/-- Whether a text is written like a tag with two or three numbers. -/
def isFullTag (tag : String) : Bool :=
  match textAfter? "v" tag with
  | some body =>
    let parts := Text.parts '_' body.toList
    (parts.length == 2 || parts.length == 3) &&
      parts.all fun part => !part.isEmpty && part.all Char.isDigit
  | none => false

/-- The version in the name of a schema document of a file id. -/
def versionOfName? (fileId name : String) : Option Version :=
  match (textAfter? (fileId ++ ".") name).bind (textBefore? ".json") with
  | some tag => if isFullTag tag then Version.parse? tag else none
  | none => none

/-- The greater one of a version and a further one; the earlier one if they are equal. -/
def later (latest : Option Version) (version : Version) : Option Version :=
  match latest with
  | none => some version
  | some current => if current.order version = .lt then some version else some current

/-- The greatest version of a schema id in a bundle. -/
def latestVersion? (assets : Assets) (standard : Standard) (id : String) : Option Version :=
  let entries := assets.files.list (assets.layout.jsonSchemaDir standard)
  (entries.filterMap fun entry => versionOfName? (assets.fileId id) entry.1).foldl later none

/-! ## Interface descriptions and metadata documents -/

/-- The interface description of a schema id. -/
def openapi (assets : Assets) (standard : Standard) (id : String) : Except Error Json :=
  let path := (assets.layout.openapiDir standard).child (id ++ ".yaml")
  if assets.files.isFile path then
    match assets.files.text? path with
    | none => .error .notText
    | some text =>
      match Yaml.parse text with
      | some document => .ok document
      | none => .error .yaml
  else .error (assets.missing path standard id)

/-- The name of the metadata document of a schema id. -/
def csdlName (id : String) : String :=
  id ++ "_v1.xml"

/-- The path of the metadata document of a schema id in a bundle. -/
def csdlPath (assets : Assets) (standard : Standard) (id : String) : Path :=
  (assets.layout.csdlDir standard).child (csdlName id)

/-- The path of the metadata document of an extension. -/
def extensionCsdlPath (assets : Assets) (id : String) : Path :=
  assets.layout.extensionCsdlDir.child (csdlName id)

/-- The namespaces that the metadata document at a path declares. -/
def namespaces (assets : Assets) (path : Path) : Except Error (List String) :=
  if assets.files.isFile path then
    match assets.files.text? path with
    | none => .error .notText
    | some text => Csdl.namespaces text
  else .error (.missingDocument path none)

/-! ## Extensions -/

/-- The stem of an extension document. -/
def extensionStem (name tag : String) : String :=
  name ++ "." ++ tag

/-- The path of the extension document with a stem. -/
def extensionFile (assets : Assets) (stem : String) : Path :=
  assets.layout.extensionJsonDir.child (stem ++ ".json")

/-- The path of an extension document. -/
def extensionPath (assets : Assets) (name tag : String) : Path :=
  assets.extensionFile (extensionStem name tag)

/-- The extension document with a stem; none if there is no file for it. -/
def extensionOfStem? (assets : Assets) (stem : String) : Except Error (Option Json) :=
  match assets.existing? (assets.extensionFile stem) with
  | some path => (assets.readJson path stem).map some
  | none => .ok none

/-- An extension document; none if there is no file for it. -/
def extension? (assets : Assets) (name tag : String) : Except Error (Option Json) :=
  assets.extensionOfStem? (extensionStem name tag)

/-- A versioned document in the extension area. -/
structure ExtensionDocument where
  id : String
  version : Version
  path : Path
  deriving DecidableEq, Repr

/-- The extension document that an entry with the given name in a directory is. -/
def extensionOfName? (dir : Path) (name : String) : Option ExtensionDocument :=
  match Path.splitExtension? name with
  | some (stem, "json") =>
    (Version.ofStem? stem).map fun version => ⟨stemId stem, version, dir.child name⟩
  | _ => none

/-- The versioned documents in the extension area, in the order of their names. -/
def extensionDocuments (assets : Assets) : List ExtensionDocument :=
  let dir := assets.layout.extensionJsonDir
  (assets.files.list dir).filterMap fun entry => extensionOfName? dir entry.1

/-- The document with the greater version; the later one if they are equal. -/
def newer (found : Option ExtensionDocument) (document : ExtensionDocument) :
    Option ExtensionDocument :=
  match found with
  | none => some document
  | some current =>
    if document.version.order current.version = .lt then some current else some document

/-- The extension document of a schema id with the given version, or with the greatest one if none
    is given. -/
def findExtension? (assets : Assets) (id : String) (version : Option Version) :
    Option ExtensionDocument :=
  let matching := assets.extensionDocuments.filter fun document =>
    document.id = id && version.all fun wanted => document.version.same wanted
  matching.foldl newer none

end Assets

end ResourceModel

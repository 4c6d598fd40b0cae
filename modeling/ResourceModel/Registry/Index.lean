import ResourceModel.Json.Printer
import ResourceModel.Output
import ResourceModel.Registry.Basic

set_option autoImplicit false

/-! # The index of schemas

The deployment tree of a completed registry: a metadata index that refers to every metadata
document, an index of every schema, an index of its own for each schema of a bundle, and copies of
the documents. -/

namespace ResourceModel.Index

/-- The version of the protocol, a segment of every path. -/
def protocol : String := "v1"

/-- The directory of the schema documents of a standard. -/
def schemasDir : String := "JsonSchemas"

/-- The directory of a schema below the root, which is also its place on the served tree. -/
def schemaDir (entry : Entry) : String :=
  entry.standard.name ++ "/" ++ protocol ++ "/" ++ schemasDir ++ "/" ++ entry.id

/-- The path of the copy of a schema's metadata document. -/
def csdlTarget (entry : Entry) : String :=
  entry.standard.name ++ "/" ++ protocol ++ "/schema/" ++ Assets.csdlName entry.id

/-! ## The index of one schema -/

/-- A placeholder of the template. -/
def placeholder (name : String) : String :=
  "\x7b" ++ name ++ "\x7d"

/-- The lines of the template of a schema's index. -/
def templateLines : List String :=
  ["\x7b",
    "    \"@odata.context\": \"/\x7bstandard\x7d/\x7bv\x7d/$metadata#JsonSchemaFile.JsonSchemaFile\",",
    "    \"@odata.id\": \"/\x7bstandard\x7d/\x7bv\x7d/\x7bJsonSchemas\x7d/\x7bname\x7d\",",
    "    \"@odata.type\": \"#JsonSchemaFile.v1_0_2.JsonSchemaFile\",",
    "    \"Name\": \"\x7bname\x7d Schema File\",",
    "    \"Schema\": \"#\x7bname\x7d.\x7bname\x7d\",",
    "    \"Description\": \"\x7bname\x7d Schema File Location\",",
    "    \"Id\": \"\x7bname\x7d\",",
    "    \"Languages\": [",
    "        \"en\"",
    "    ],",
    "    \"Languages@odata.count\": 1,",
    "    \"Location\": [",
    "        \x7b",
    "            \"Language\": \"en\",",
    "            \"PublicationUri\": \"http://redfish.dmtf.org/schemas/\x7bstandard\x7d/\x7bv\x7d/\x7bname\x7d.json\",",
    "            \"Uri\": \"/\x7brelativeSchemaPath\x7d/\x7bname\x7d.json\"",
    "        \x7d",
    "    ],",
    "    \"Location@odata.count\": 1",
    "\x7d"]

/-- The index of a schema: the template with its placeholders replaced one after the other. -/
def ofSchema (standard : Standard) (name dir : String) : String :=
  -- the name comes first, so a placeholder that it holds is replaced as well
  let values := [("name", name), ("relativeSchemaPath", dir), ("JsonSchemas", schemasDir),
    ("standard", standard.name), ("v", protocol)]
  values.foldl (fun text row => replacePiece text (placeholder row.1) row.2)
    (String.intercalate "\n" templateLines)

/-! ## The metadata index -/

/-- A character inside an attribute. -/
def escapeChar (c : Char) : String :=
  if c = '<' then "&lt;"
  else if c = '>' then "&gt;"
  else if c = '&' then "&amp;"
  else if c = '\'' then "&apos;"
  else if c = '"' then "&quot;"
  else String.singleton c

/-- A text inside an attribute. -/
def escape (text : String) : String :=
  String.join (text.toList.map escapeChar)

/-- The line that includes a namespace. One namespace gets an alias. -/
def includeLine (settings : RegistrySettings) (namespaceName : String) : String :=
  let named := "    <edmx:Include Namespace=\"" ++ escape namespaceName ++ "\""
  if namespaceName = settings.aliasNamespace then
    named ++ " Alias=\"" ++ escape settings.aliasName ++ "\"/>\n"
  else named ++ "/>\n"

/-- The lines that refer to the metadata document of a schema and include its namespaces. -/
def referenceLines (settings : RegistrySettings) (entry : Entry) (namespaces : List String) :
    String :=
  "  <edmx:Reference Uri=\"/" ++ entry.standard.name ++ "/" ++ protocol ++ "/schema/" ++
    escape (Assets.csdlName entry.id) ++ "\">\n" ++
    String.join (namespaces.map (includeLine settings)) ++
    "  </edmx:Reference>\n"

/-- The metadata index with the given references. -/
def metadata (references : List String) : String :=
  "<?xml version=\"1.0\" encoding=\"utf-8\"?>\n" ++
    "<edmx:Edmx xmlns:edmx=\"http://docs.oasis-open.org/odata/ns/edmx\" Version=\"4.0\">\n" ++
    String.join references ++
    "</edmx:Edmx>\n"

/-- The path of the metadata index. -/
def metadataTarget : String :=
  "redfish/" ++ protocol ++ "/$metadata/index.xml"

/-! ## The index of all schemas -/

/-- The path of the index of all schemas. -/
def collectionTarget : String :=
  "redfish/" ++ protocol ++ "/" ++ schemasDir ++ "/index.json"

/-- The member of the index for the schema in a directory. -/
def member (dir : String) : Json :=
  .object [("@odata.id", .string ("/" ++ dir))]

/-- The index of the schemas in the given directories. -/
def collection (dirs : List String) : Json :=
  .object [
    ("@odata.context", .string ("/redfish/" ++ protocol ++
      "/$metadata#JsonSchemaFileCollection.JsonSchemaFileCollection")),
    ("@odata.id", .string ("/redfish/" ++ protocol ++ "/" ++ schemasDir)),
    ("@odata.type", .string "#JsonSchemaFileCollection.JsonSchemaFileCollection"),
    ("Description", .string "Collection of JsonSchemaFiles"),
    ("Members", .array (dirs.map member)),
    ("Members@odata.count", .ofNat dirs.length),
    ("Name", .string "JsonSchemaFile Collection")]

/-! ## Writing -/

/-- The assets as they are now. -/
def assetsNow (config : Config) : Step Output Assets := do
  return ⟨(← get).files, config⟩

/-- The path of the metadata document of a schema. -/
def csdlSource (assets : Assets) (entry : Entry) : Path :=
  match entry.origin with
  | .bundle => assets.csdlPath entry.standard entry.id
  | .extension => assets.extensionCsdlPath entry.id

/-- Copies the metadata document of a schema; answers its namespaces. -/
def copyCsdl (config : Config) (entry : Entry) : Step Output (List String) := do
  let assets ← assetsNow config
  let source := csdlSource assets entry
  let namespaces ← Step.ofExcept (assets.namespaces source)
  let _ ← Output.copy source (csdlTarget entry)
  return namespaces

/-- The path of the schema document of an entry of a bundle. -/
def jsonSource (assets : Assets) (entry : Entry) : Except Error Path :=
  match assets.jsonPath? entry.standard entry.stem with
  | some path => .ok path
  | none =>
    .error (.missingDocument (assets.jsonFile entry.standard entry.stem)
      (assets.suggest? entry.standard entry.id))

/-- Copies the schema document of an entry. That of a bundle gets an index; that of an extension is
    its own index. -/
def copyJson (config : Config) (entry : Entry) : Step Output Unit := do
  let assets ← assetsNow config
  let dir := schemaDir entry
  match entry.origin with
  | .bundle =>
    let source ← Step.ofExcept (jsonSource assets entry)
    let _ ← Output.copy source (dir ++ "/" ++ entry.id ++ ".json")
    let _ ← Output.write (dir ++ "/index.json") (ofSchema entry.standard entry.id dir)
    return ()
  | .extension =>
    let source := assets.extensionPath entry.id ((entry.version.map Version.tag).getD "")
    let _ ← Output.copy source (dir ++ "/index.json")
    return ()

/-- Copies the documents of an entry, which has to be resolved; answers the lines that refer to its
    metadata document. -/
def emitEntry (config : Config) (registry : Registry) (entry : Entry) : Step Output String := do
  if entry.resolved then
    let namespaces ← copyCsdl config entry
    copyJson config entry
    return referenceLines config.registry entry namespaces
  else throw (.notConverged config.limits.closurePasses registry.pending)

/-- Copies the documents of entries, one after the other; answers the lines that refer to their
    metadata documents. -/
def emitEntries (config : Config) (registry : Registry) : List Entry → Step Output (List String)
  | [] => return []
  | entry :: rest => do
    let lines ← emitEntry config registry entry
    return lines :: (← emitEntries config registry rest)

/-- What was emitted: the number of schemas and that of files. -/
structure Summary where
  schemas : Nat
  files : Nat
  deriving DecidableEq, Repr

/-- Writes the deployment tree of a registry. -/
def emit (config : Config) (registry : Registry) : Step Output Summary := do
  let entries := Table.values registry.entries
  let references ← emitEntries config registry entries
  let _ ← Output.write metadataTarget (metadata references)
  let _ ← Output.write collectionTarget (collection (entries.map schemaDir)).pretty
  return ⟨entries.length, (← get).artifacts.written.length⟩

end ResourceModel.Index

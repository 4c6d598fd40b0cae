import ResourceModel.Config.KeyPath
import ResourceModel.FileTree
import ResourceModel.Ini.Parser
import ResourceModel.Json.Parser
import ResourceModel.Json5.Parser
import ResourceModel.Ron.Parser
import ResourceModel.Toml.Parser
import ResourceModel.Yaml12.Value

set_option autoImplicit false

/-! # Sources of a configuration

A configuration is read from files at fixed places, from one that is named, and from the
environment. Later sources go over earlier ones key by key, and keys are compared in lower case. -/

namespace ResourceModel

namespace Config

open Setting

/-! ## Files -/

/-- The formats of a configuration file. -/
inductive Format where
  | toml
  | json
  | yaml
  | ini
  | ron
  | json5
  deriving DecidableEq, Repr

/-- The extensions that tell a format. -/
def formats : List (String × Format) :=
  [("toml", .toml), ("json", .json), ("yaml", .yaml), ("yml", .yaml), ("ini", .ini), ("ron", .ron),
    ("json5", .json5)]

/-- The rows of the object that a structured text has to be. -/
def objectRows? (value : Option Json) : Option (List (String × Setting)) :=
  (value.bind Json.object?).map Setting.ofRows

/-- Reads the settings in a text of a format. -/
def Format.parse? (format : Format) (content : String) : Option (List (String × Setting)) :=
  match format with
  | .toml => Toml.parse content
  | .json => objectRows? (Json.parse content)
  | .yaml => Yaml12.parse content
  | .ini => Ini.parse content
  | .ron => Ron.parse content
  | .json5 => Json5.parse content

/-- The format of a file name. -/
def formatOf? (name : String) : Option Format :=
  (Path.extensionOfName? name).bind fun found => List.lookup found formats

/-- The path with an extension behind its last name; none if its last component is no name. -/
def withExtension? (path : Path) (added : String) : Option Path :=
  path.fileName?.map fun _ =>
    let parts := Path.trimParts (splitParts path.text '/').reverse
    ⟨String.intercalate "/" parts.reverse ++ "." ++ added⟩

/-- The files with an extension behind the last name of a path, and the formats that the extensions
    tell. -/
def extensionsOf (path : Path) : List (Path × Format) :=
  formats.filterMap fun row => (withExtension? path row.1).map fun extended => (extended, row.2)

/-- The file that a path names: the one of exactly this name, or else one with an extension behind
    it. There is none if the file of exactly this name tells no format. -/
def fileNamed? (files : FileTree) (path : Path) : Option (Path × Format) :=
  if files.isFile path then (path.fileName?.bind formatOf?).map fun format => (path, format)
  else (extensionsOf path).find? fun row => files.isFile row.1

/-- Every path at which the file that a path names may stand. -/
def pathsOf (path : Path) : List Path :=
  path :: (extensionsOf path).map fun row => row.1

/-- The settings in a file that has to be there. -/
def requiredFile (files : FileTree) (path : Path) : Option (List (String × Setting)) :=
  (fileNamed? files path).bind fun (path, format) => (files.text? path).bind format.parse?

/-- The settings in a file that may be missing. One that is no text counts as missing. -/
def optionalFile (files : FileTree) (path : Path) : Option (List (String × Setting)) :=
  match fileNamed? files path with
  | none => some []
  | some (path, format) =>
    match files.text? path with
    | none => some []
    | some content => format.parse? content

/-- The files that are read from the working directory. -/
def localFiles : List Path :=
  [⟨"redfish-gen.toml"⟩, ⟨".redfish-gen.toml"⟩, ⟨"config/redfish-gen.toml"⟩]

/-- The file that is read from the user's directory. -/
def userFile (dir : Path) : Path :=
  dir.child "redfish-gen/redfish-gen.toml"

/-- The file of the user's directory, if something stands at its place. -/
def userFiles (files : FileTree) (dir : Path) : List Path :=
  if (files.find? (userFile dir)).isSome then [userFile dir] else []

/-! ## The environment -/

/-- The start of the names of variables that give settings. -/
def variableStart : String := "redfish_gen__"

/-- The integer of 64 bits that a text spells. -/
def integerOf? (text : String) : Option Int :=
  let (negative, digits) := Toml.splitSign text.toList
  Decimal.integer? 10 negative digits

/-- The value of a variable: a truth value, an integer, a fraction, or a text. -/
def valueOf (text : String) : Setting :=
  if lowerText text = "true" then .truth true
  else if lowerText text = "false" then .truth false
  else match integerOf? text with
    | some n => .integer n
    | none =>
      match Fraction.ofText? text with
      | some value => .fraction value
      | none => .text text

/-- The setting that a variable gives, if its name says so. Two underscores divide the keys. -/
def settingOf? (entry : String × String) : Option (String × Setting) :=
  (textAfter? variableStart (lowerText entry.1)).map fun key =>
    (replacePiece key "__" ".", valueOf entry.2)

/-! ## Loading -/

/-- Where a configuration is read from besides the working directory: the user's directory, the
    file that is named, and the variables of the environment. -/
structure Sources where
  userDir : Option Path
  explicit : Option Path
  environment : List (String × String)

/-- Every path that loading looks at. -/
def Sources.paths (sources : Sources) : List Path :=
  (localFiles ++ sources.userDir.toList.map userFile ++ sources.explicit.toList).flatMap pathsOf

/-- The settings of every source, in the order in which they go over each other; none if a source
    cannot be read. -/
def sourceRows? (files : FileTree) (sources : Sources) :
    Option (List (List (String × Setting))) := do
  let here ← localFiles.mapM (optionalFile files)
  let user ← (sources.userDir.toList.flatMap (userFiles files)).mapM (optionalFile files)
  let named ← sources.explicit.toList.mapM (requiredFile files)
  return here ++ user ++ named ++ [sources.environment.filterMap settingOf?]

/-- Loads the configuration; none if a source cannot be read or gives what cannot be converted. -/
def load? (files : FileTree) (sources : Sources) : Option Config := do
  let rows ← sourceRows? files sources
  ofSetting? (rows.foldl withSource (.table []))

end Config

end ResourceModel

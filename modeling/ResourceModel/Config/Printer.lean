import ResourceModel.Config
import ResourceModel.Json.Basic
import ResourceModel.Toml.Printer

set_option autoImplicit false

/-! # Writing configurations

The text of a configuration: a section for each part, with every setting in it. -/

namespace ResourceModel.Config

open Toml

/-- The row of a path. -/
def pathRow (key : String) (path : Path) : String :=
  row key (quote path.text)

/-- The row of a truth value. -/
def truthRow (key : String) (value : Bool) : String :=
  row key (if value then "true" else "false")

/-- The row of a count; none if it does not fit into 63 bits. -/
def countRow? (key : String) (count : Nat) : Option String :=
  if count < Nat.pow 2 63 then some (row key (natText count)) else none

/-- The rows of a table of texts. -/
def textRows (table : Table String) : List String :=
  table.map fun entry => row entry.1 (quote entry.2)

/-- The section of the layout of assets. -/
def assetsSection (assets : AssetLayout) : String :=
  sectionText "assets" [
    pathRow "root" assets.root,
    pathRow "redfish_bundle" assets.redfishBundle,
    pathRow "swordfish_bundle" assets.swordfishBundle,
    pathRow "extension_dir" assets.extensionDir]

/-- The section of the output settings. -/
def outputSection (output : OutputSettings) : String :=
  sectionText "output" [
    pathRow "www_dir" output.wwwDir,
    pathRow "generated_dir" output.generatedDir,
    truthRow "write_checksums" output.writeChecksums]

/-- The section of the bounds. -/
def limitsSection? (limits : Limits) : Option String := do
  return sectionText "resolution" [
    ← countRow? "max_reference_hops" limits.referenceHops,
    ← countRow? "max_nesting_depth" limits.nestingDepth,
    ← countRow? "max_closure_passes" limits.closurePasses,
    truthRow "strict_references" limits.strictReferences]

/-- The sections of the registry settings. -/
def registrySections (registry : RegistrySettings) : List String :=
  [sectionText "registry" [
      row "alias_namespace" (quote registry.aliasNamespace),
      row "alias" (quote registry.aliasName)],
    sectionText "registry.baseline_schemas" (textRows registry.baseline),
    sectionText "registry.file_map" (textRows registry.fileMap)]

/-- The text of a configuration; none if a count is too great to be written. -/
def text? (config : Config) : Option String := do
  let limits ← limitsSection? config.limits
  return document ([assetsSection config.assets, outputSection config.output,
    sectionText "declarations" [pathRow "dir" config.declarationsDir], limits] ++
    registrySections config.registry)

end ResourceModel.Config

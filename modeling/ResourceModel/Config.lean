import ResourceModel.Path
import ResourceModel.Standard
import ResourceModel.Table

set_option autoImplicit false

/-! # Configuration

Where the assets and declarations of a run lie, where its results go, and the bounds it keeps. -/

namespace ResourceModel

/-- Where schema documents lie: the bundles of the standards and the area of vendor extensions,
    seen from a root. -/
structure AssetLayout where
  root : Path := ⟨"."⟩
  redfishBundle : Path := ⟨"assets/schemas/bundle"⟩
  swordfishBundle : Path := ⟨"assets/schemas/swordfish/bundle"⟩
  extensionDir : Path := ⟨"assets/oem"⟩
  deriving DecidableEq, Repr

namespace AssetLayout

/-- The bundle of a standard. -/
def bundleDir (layout : AssetLayout) : Standard → Path
  | .redfish => layout.root.join layout.redfishBundle
  | .swordfish => layout.root.join layout.swordfishBundle

/-- The directory of a bundle's schema documents. -/
def jsonSchemaDir (layout : AssetLayout) (standard : Standard) : Path :=
  (layout.bundleDir standard).child "json-schema"

/-- The directory of a bundle's interface descriptions. -/
def openapiDir (layout : AssetLayout) (standard : Standard) : Path :=
  (layout.bundleDir standard).child "openapi"

/-- The directory of a bundle's metadata documents. -/
def csdlDir (layout : AssetLayout) (standard : Standard) : Path :=
  (layout.bundleDir standard).child
    (match standard with
      | .redfish => "csdl"
      | .swordfish => "csdl-schema")

/-- The directory of the extensions' schema documents. -/
def extensionJsonDir (layout : AssetLayout) : Path :=
  (layout.root.join layout.extensionDir).child "json-schema"

/-- The directory of the extensions' metadata documents. -/
def extensionCsdlDir (layout : AssetLayout) : Path :=
  (layout.root.join layout.extensionDir).child "csdl"

end AssetLayout

/-- Where results go. -/
structure OutputSettings where
  wwwDir : Path := ⟨"www"⟩
  generatedDir : Path := ⟨"generated"⟩
  writeChecksums : Bool := true
  deriving DecidableEq, Repr

/-- The bounds of a run: the references followed in one resolution, the nesting of the properties
    that are scanned, the passes of the closure; and whether a malformed list of child references
    is an error. -/
structure Limits where
  referenceHops : Nat := 10
  nestingDepth : Nat := 10
  closurePasses : Nat := 10
  strictReferences : Bool := false
  deriving DecidableEq, Repr

/-- What the registry of schemas starts from: the schemas that are always emitted, with the names
    of their standards; the schemas whose files are named differently; and the namespace that gets
    an alias in the metadata index. -/
structure RegistrySettings where
  baseline : Table String := [("RedfishExtensions", "redfish")]
  fileMap : Table String := [("RedfishExtensions", "redfish-schema")]
  aliasNamespace : String := "RedfishExtensions.v1_0_0"
  aliasName : String := "Redfish"
  deriving DecidableEq, Repr

/-- The configuration of a run. -/
structure Config where
  assets : AssetLayout := {}
  output : OutputSettings := {}
  declarationsDir : Path := ⟨"redfish"⟩
  limits : Limits := {}
  registry : RegistrySettings := {}
  deriving DecidableEq, Repr

namespace Config

/-- The configuration with assets and declarations at a root. -/
def withRoot (config : Config) (root : Path) : Config :=
  { config with
    assets := { config.assets with root := root }
    declarationsDir := root.join ({ : Config }).declarationsDir }

/-- The configuration with results below a directory. -/
def withOutput (config : Config) (out : Path) : Config :=
  let standard : OutputSettings := {}
  { config with
    output := { config.output with
      wwwDir := out.join standard.wwwDir
      generatedDir := out.join standard.generatedDir } }

end Config

end ResourceModel

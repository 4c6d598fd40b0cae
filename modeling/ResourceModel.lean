import ResourceModel.Artifacts
import ResourceModel.Assets
import ResourceModel.Calendar
import ResourceModel.ClassName
import ResourceModel.CommandLine
import ResourceModel.Config
import ResourceModel.Config.KeyPath
import ResourceModel.Config.Layers
import ResourceModel.Config.Printer
import ResourceModel.Config.Setting
import ResourceModel.Csdl
import ResourceModel.Decimal.Binary64
import ResourceModel.Decimal.Reading
import ResourceModel.Decimal.Shortest
import ResourceModel.Declaration
import ResourceModel.Error
import ResourceModel.FileTree
import ResourceModel.Fragment
import ResourceModel.Generation
import ResourceModel.Ini.Parser
import ResourceModel.Json.Basic
import ResourceModel.Json.Parser
import ResourceModel.Json.Printer
import ResourceModel.Json5.Parser
import ResourceModel.Json5.Text
import ResourceModel.Main
import ResourceModel.Node.Basic
import ResourceModel.Node.Children
import ResourceModel.Node.Declaration
import ResourceModel.Node.DeclarationTree
import ResourceModel.Node.Graph
import ResourceModel.Node.Model
import ResourceModel.Node.Parameter
import ResourceModel.Node.Properties
import ResourceModel.Output
import ResourceModel.Path
import ResourceModel.Pointer
import ResourceModel.Proofs.FileTree
import ResourceModel.Proofs.Generation
import ResourceModel.Proofs.Generation.Loading
import ResourceModel.Proofs.Generation.Rendering
import ResourceModel.Proofs.Output
import ResourceModel.Proofs.Path
import ResourceModel.Proofs.Registry.Closure
import ResourceModel.Proofs.Registry.Coverage
import ResourceModel.Proofs.Registry.Emission
import ResourceModel.Proofs.Registry.Extraction
import ResourceModel.Proofs.Registry.Growth
import ResourceModel.Proofs.Registry.History
import ResourceModel.Proofs.Registry.Invariant
import ResourceModel.Proofs.Registry.Scan
import ResourceModel.Proofs.Registry.Version
import ResourceModel.Proofs.Resolution
import ResourceModel.Proofs.Resolution.Agreement
import ResourceModel.Proofs.Resolution.Guard
import ResourceModel.Proofs.Resolution.Limit
import ResourceModel.Proofs.Resolution.Outcome
import ResourceModel.Proofs.Resolution.Route
import ResourceModel.Proofs.Step
import ResourceModel.Proofs.Store
import ResourceModel.Proofs.Table
import ResourceModel.Property.Annotation
import ResourceModel.Property.Basic
import ResourceModel.Property.Build
import ResourceModel.Property.Condition
import ResourceModel.Property.Entity
import ResourceModel.Property.Enumeration
import ResourceModel.Property.Getter
import ResourceModel.Property.Kind
import ResourceModel.Property.Link
import ResourceModel.Property.Scope
import ResourceModel.Property.Static
import ResourceModel.Reference
import ResourceModel.Registry.Basic
import ResourceModel.Registry.Closure
import ResourceModel.Registry.Dot
import ResourceModel.Registry.Index
import ResourceModel.Registry.Mention
import ResourceModel.Registry.Scan
import ResourceModel.Resolution
import ResourceModel.Ron.Number
import ResourceModel.Ron.Parser
import ResourceModel.Ron.Text
import ResourceModel.Session
import ResourceModel.Sha256
import ResourceModel.Standard
import ResourceModel.Step
import ResourceModel.Store
import ResourceModel.Suggestion
import ResourceModel.Table
import ResourceModel.Text.Blank
import ResourceModel.Text.Code
import ResourceModel.Text.Lowercase
import ResourceModel.Text.Split
import ResourceModel.Text.Uppercase
import ResourceModel.Text.Utf8
import ResourceModel.Toml.Item
import ResourceModel.Toml.Parser
import ResourceModel.Toml.Printer
import ResourceModel.Toml.Scalar
import ResourceModel.Toml.Text
import ResourceModel.Unicode.Casing
import ResourceModel.Unicode.Category
import ResourceModel.Unicode.CodeTable
import ResourceModel.Unicode.Composition
import ResourceModel.Unicode.Direction
import ResourceModel.Unicode.Joining
import ResourceModel.Url.FilePath
import ResourceModel.Url.Host
import ResourceModel.Url.Name
import ResourceModel.Url.NameTable
import ResourceModel.Url.Percent
import ResourceModel.Url.Punycode
import ResourceModel.Url.Resolve
import ResourceModel.Version
import ResourceModel.Xml.Markup
import ResourceModel.Yaml.Cursor
import ResourceModel.Yaml.Node
import ResourceModel.Yaml.Scalar
import ResourceModel.Yaml.Token
import ResourceModel.Yaml.Value
import ResourceModel.Yaml12.Cursor
import ResourceModel.Yaml12.Node
import ResourceModel.Yaml12.Scalar
import ResourceModel.Yaml12.Token
import ResourceModel.Yaml12.Value
import ResourceModel.Proofs.Json
import ResourceModel.Proofs.Text
import ResourceModel.Proofs.Registry.SchemaIndex
import ResourceModel.Proofs.Xml
import ResourceModel.Proofs.Registry.Metadata
import ResourceModel.Proofs.Registry.Targets
import ResourceModel.Proofs.Registry.Deployment
import ResourceModel.Proofs.Generation.Documents
import ResourceModel.Proofs.Property
import ResourceModel.Proofs.Generation.Versions
import ResourceModel.Proofs.Registry.Convergence
import ResourceModel.Proofs.Registry.Idempotence
import ResourceModel.Proofs.Declaration
import ResourceModel.Proofs.Generation.Sources
import ResourceModel.Proofs.Generation.Shape
import ResourceModel.Proofs.Property.Mirror
import ResourceModel.Proofs.Store.Caching
import ResourceModel.Proofs.Store.Binding
import ResourceModel.Proofs.Registry.Graph
import ResourceModel.Proofs.Text.Bytes
import ResourceModel.Proofs.Artifacts
import ResourceModel.Proofs.Registry.Independence
import ResourceModel.Proofs.Registry.Nesting
import ResourceModel.Proofs.Version
import ResourceModel.Proofs.Assets.LatestVersion
import ResourceModel.Proofs.Url
import ResourceModel.Proofs.Reference
import ResourceModel.Proofs.Resolution.Type
import ResourceModel.Proofs.Assets.Extensions
import ResourceModel.Proofs.Registry.Extensions
import ResourceModel.Proofs.Registry.ExtensionVersion
import ResourceModel.Proofs.Resolution.Record
import ResourceModel.Proofs.Resolution.Trail
import ResourceModel.Proofs.Property.Link
import ResourceModel.Proofs.Json.Ordered
import ResourceModel.Proofs.Resolution.Ordered
import ResourceModel.Proofs.Property.Enumeration
import ResourceModel.Proofs.Children
import ResourceModel.Proofs.Pointer
import ResourceModel.Proofs.Version.Spelling
import ResourceModel.Proofs.Store.Building
import ResourceModel.Proofs.Property.Literal
import ResourceModel.Proofs.Node.Declaration

import ResourceModel.Config
import ResourceModel.Decimal.Reading
import ResourceModel.Decimal.Shortest
import ResourceModel.Json.Basic
import ResourceModel.Text.Lowercase

set_option autoImplicit false

/-! # Settings

The values that configuration files and the environment give, and the configuration they amount to.
A scalar is converted to what is wanted at its place: a text may spell a count or a truth value, and
a number or a truth value may stand for a text. -/

namespace ResourceModel

/-- A number with a fraction, which may also be infinite or none at all. -/
inductive Fraction where
  | finite (value : Binary64)
  | infinite (negative : Bool)
  | notNumber
  deriving DecidableEq, Repr

namespace Fraction

/-- The nearest fraction; one beyond the greatest number is infinite. -/
def ofSigned (number : Decimal.Signed) : Fraction :=
  match Binary64.ofDecimal number.negative number.digits number.exponent with
  | some value => finite value
  | none => infinite number.negative

/-- The fraction without a sign that a word spells, if it spells one that is not finite. -/
def word? (negative : Bool) (word : String) : Option Fraction :=
  if word = "inf" ∨ word = "infinity" then some (infinite negative)
  else if word = "nan" then some notNumber
  else none

/-- The fraction that a text spells. -/
def ofText? (text : String) : Option Fraction :=
  let chars := text.toList
  let (negative, digits) := match chars with
    | '-' :: rest => (true, rest)
    | '+' :: rest => (false, rest)
    | rest => (false, rest)
  match word? negative (String.ofList (digits.map Char.toLower)) with
  | some value => some value
  | none =>
    if digits.head? = some '-' then none
    else (Decimal.signed? digits).map fun number => ofSigned { number with negative }

/-- The text of a fraction. -/
def text : Fraction → String
  | finite value => value.plainText
  | infinite false => "inf"
  | infinite true => "-inf"
  | notNumber => "NaN"

/-- Whether a fraction is zero. -/
def isZero : Fraction → Bool
  | finite value => value.isZero
  | _ => false

/-- The greatest count. -/
def greatestCount : Nat := Nat.pow 2 64 - 1

/-- The absolute value rounded to an integer, a half away from zero. -/
def roundedAbsolute (value : Binary64) : Nat :=
  let (num, den) := value.ratio
  (2 * num + den) / (2 * den)

/-- The nearest count: zero for what is negative or no number. -/
def count : Fraction → Nat
  | finite value => if value.isNegative then 0 else min (roundedAbsolute value) greatestCount
  | infinite false => greatestCount
  | infinite true => 0
  | notNumber => 0

end Fraction

/-- A value that a source gives. -/
inductive Setting where
  | absent
  | truth (value : Bool)
  | integer (value : Int)
  | fraction (value : Fraction)
  | text (value : String)
  | list (items : List Setting)
  | table (rows : List (String × Setting))
  deriving Inhabited

namespace Setting

/-! ## Conversions -/

/-- The text that a scalar stands for. -/
def text? : Setting → Option String
  | text value => some value
  | truth true => some "true"
  | truth false => some "false"
  | integer value => some (Number.text (.integer value))
  | fraction value => some value.text
  | _ => none

/-- The truth value that a word spells. -/
def truthOfWord? (word : String) : Option Bool :=
  if ["1", "true", "on", "yes"].contains word then some true
  else if ["0", "false", "off", "no"].contains word then some false
  else none

/-- The truth value that a scalar stands for. -/
def truth? : Setting → Option Bool
  | truth value => some value
  | integer value => some (value ≠ 0)
  | fraction value => some !value.isZero
  | text value => truthOfWord? (lowerText value)
  | _ => none

/-- The count that digits spell, with a plus sign or without. -/
def countOfDigits? (text : List Char) : Option Nat :=
  let digits := match text with
    | '+' :: rest => rest
    | text => text
  if digits.all Char.isDigit then
    (Decimal.natural? 10 digits).filter (· ≤ Fraction.greatestCount)
  else none

/-- The count that a text spells. -/
def countOfText? (text : String) : Option Nat :=
  let word := lowerText text
  if ["true", "on", "yes"].contains word then some 1
  else if ["false", "off", "no"].contains word then some 0
  else countOfDigits? text.toList

/-- The count that a scalar stands for. -/
def count? : Setting → Option Nat
  | integer (.ofNat value) => if value ≤ Fraction.greatestCount then some value else none
  | truth value => some (if value then 1 else 0)
  | fraction value => some value.count
  | text value => countOfText? value
  | _ => none

/-- The path that a scalar stands for. -/
def path? (setting : Setting) : Option Path :=
  setting.text?.map Path.mk

/-- The rows of a table, or of a list whose items stand for the given keys in turn. -/
def rows? (keys : List String) : Setting → Option (List (String × Setting))
  | table rows => some rows
  | list items => some (keys.zip items)
  | _ => none

/-- The rows of a table; anything else has none. -/
def rowsOrNone : Setting → List (String × Setting)
  | table rows => rows
  | _ => []

/-- The text in a row. -/
def textRow? (row : String × Setting) : Option (String × String) :=
  row.2.text?.map fun text => (row.1, text)

/-- The table of texts that a table stands for. -/
def texts? : Setting → Option (Table String)
  | table rows => (rows.mapM textRow?).map Table.ofRows
  | _ => none

/-- What stands in a row, or the default if there is no row of the key. -/
def rowOr {α : Type} (rows : List (String × Setting)) (key : String) (convert : Setting → Option α)
    (default : α) : Option α :=
  match Table.get? rows key with
  | some setting => convert setting
  | none => some default

/-- The values of structured text as settings. An integer beyond 63 bits counts as a fraction. -/
def ofNumber : Number → Setting
  | .integer value =>
    if value < Nat.pow 2 63 then integer value
    else fraction (.ofSigned ⟨false, value.toNat, 0⟩)
  | .float value => fraction (.finite value)

mutual

/-- A structured value as a setting. -/
def ofJson : Json → Setting
  | .null => absent
  | .bool value => truth value
  | .number number => ofNumber number
  | .string value => text value
  | .array items => list (ofItems items)
  | .object rows => table (ofRows rows)

/-- Structured values as settings. -/
def ofItems : List Json → List Setting
  | [] => []
  | item :: rest => ofJson item :: ofItems rest

/-- The rows of an object as settings. -/
def ofRows : List (String × Json) → List (String × Setting)
  | [] => []
  | (key, value) :: rest => (key, ofJson value) :: ofRows rest

end

end Setting

/-! ## Configurations -/

namespace Config

open Setting

/-- The layout of assets that a setting stands for. -/
def assetsOf? (setting : Setting) : Option AssetLayout := do
  let rows ← setting.rows? ["root", "redfish_bundle", "swordfish_bundle", "extension_dir"]
  let standard : AssetLayout := {}
  return {
    root := ← rowOr rows "root" path? standard.root
    redfishBundle := ← rowOr rows "redfish_bundle" path? standard.redfishBundle
    swordfishBundle := ← rowOr rows "swordfish_bundle" path? standard.swordfishBundle
    extensionDir := ← rowOr rows "extension_dir" path? standard.extensionDir }

/-- The output settings that a setting stands for. -/
def outputOf? (setting : Setting) : Option OutputSettings := do
  let rows ← setting.rows? ["www_dir", "generated_dir", "write_checksums"]
  let standard : OutputSettings := {}
  return {
    wwwDir := ← rowOr rows "www_dir" path? standard.wwwDir
    generatedDir := ← rowOr rows "generated_dir" path? standard.generatedDir
    writeChecksums := ← rowOr rows "write_checksums" truth? standard.writeChecksums }

/-- The directory of declarations that a setting stands for. -/
def declarationsOf? (setting : Setting) : Option Path := do
  let rows ← setting.rows? ["dir"]
  rowOr rows "dir" path? ({ : Config }).declarationsDir

/-- The bounds that a setting stands for. -/
def limitsOf? (setting : Setting) : Option Limits := do
  let rows ← setting.rows?
    ["max_reference_hops", "max_nesting_depth", "max_closure_passes", "strict_references"]
  let standard : Limits := {}
  return {
    referenceHops := ← rowOr rows "max_reference_hops" count? standard.referenceHops
    nestingDepth := ← rowOr rows "max_nesting_depth" count? standard.nestingDepth
    closurePasses := ← rowOr rows "max_closure_passes" count? standard.closurePasses
    strictReferences := ← rowOr rows "strict_references" truth? standard.strictReferences }

/-- The registry settings that a setting stands for. -/
def registryOf? (setting : Setting) : Option RegistrySettings := do
  let rows ← setting.rows? ["baseline_schemas", "file_map", "alias_namespace", "alias"]
  let standard : RegistrySettings := {}
  return {
    baseline := ← rowOr rows "baseline_schemas" texts? standard.baseline
    fileMap := ← rowOr rows "file_map" texts? standard.fileMap
    aliasNamespace := ← rowOr rows "alias_namespace" Setting.text? standard.aliasNamespace
    aliasName := ← rowOr rows "alias" Setting.text? standard.aliasName }

/-- The configuration that a setting stands for. Keys that name nothing are passed over, and what no
    row gives is as it always is. -/
def ofSetting? (setting : Setting) : Option Config := do
  let rows ← setting.rows? ["assets", "output", "declarations", "resolution", "registry"]
  let standard : Config := {}
  return {
    assets := ← rowOr rows "assets" assetsOf? standard.assets
    output := ← rowOr rows "output" outputOf? standard.output
    declarationsDir := ← rowOr rows "declarations" declarationsOf? standard.declarationsDir
    limits := ← rowOr rows "resolution" limitsOf? standard.limits
    registry := ← rowOr rows "registry" registryOf? standard.registry }

/-- A table of texts as a value. -/
def textsToJson (table : Table String) : Json :=
  .object (table.map fun row => (row.1, .string row.2))

/-- A configuration as a value. -/
def toJson (config : Config) : Json :=
  let path (p : Path) := Json.string p.text
  .object [
    ("assets", .object [
      ("root", path config.assets.root),
      ("redfish_bundle", path config.assets.redfishBundle),
      ("swordfish_bundle", path config.assets.swordfishBundle),
      ("extension_dir", path config.assets.extensionDir)]),
    ("output", .object [
      ("www_dir", path config.output.wwwDir),
      ("generated_dir", path config.output.generatedDir),
      ("write_checksums", .bool config.output.writeChecksums)]),
    ("declarations", .object [("dir", path config.declarationsDir)]),
    ("resolution", .object [
      ("max_reference_hops", .ofNat config.limits.referenceHops),
      ("max_nesting_depth", .ofNat config.limits.nestingDepth),
      ("max_closure_passes", .ofNat config.limits.closurePasses),
      ("strict_references", .bool config.limits.strictReferences)]),
    ("registry", .object [
      ("baseline_schemas", textsToJson config.registry.baseline),
      ("file_map", textsToJson config.registry.fileMap),
      ("alias_namespace", .string config.registry.aliasNamespace),
      ("alias", .string config.registry.aliasName)])]

end Config

end ResourceModel

import ResourceModel.Declaration
import ResourceModel.Json.Printer

set_option autoImplicit false

/-! # Conditions

A condition selects the instances of a backing entity: a field has a value, or a preset holds. -/

namespace ResourceModel

/-- The value that a field is compared with: a qualified name, or a literal. -/
inductive ConditionValue where
  | symbolic (name : String)
  | literal (value : Json)
  deriving Repr

/-- A condition on a backing entity. -/
inductive Condition where
  | equals (field : String) (value : ConditionValue)
  | preset (name : String) (args : List String)
  deriving Repr

namespace Condition

/-- The text of a declared value: a text as it is, any other value in its compact form. -/
def argumentText : Json → String
  | .string text => text
  | value => value.compact

/-- The value of a declared comparison: a text with `::` in it is a qualified name. -/
def valueOf : Json → ConditionValue
  | .string text => if holds "::" text then .symbolic text else .literal (.string text)
  | value => .literal value

/-- Reads a condition. -/
def parse (declaration : Json) : Except Error Condition :=
  match declaration.get? "Preset" with
  | some (.string name) =>
    .ok (.preset name (((declaration.items? "Args").getD []).map argumentText))
  | some _ => .error (.malformed "condition" (.notName "Preset"))
  | none => do
    let field ← Declaration.requiredText declaration "Field" "condition"
    match declaration.get? "Value" with
    | some value => .ok (.equals field (valueOf value))
    | none => .error (.malformed ("condition on '" ++ field ++ "'") (.missingKey "Value"))

/-- Reads the conditions that a declaration lists. -/
def parseList (declaration : Json) (subject : String) : Except Error (List Condition) := do
  (← Declaration.optionalList declaration "Conditions" subject).mapM parse

/-- A compared value as a value of a model. -/
def valueToJson : ConditionValue → Json
  | .symbolic name => .object [("symbolic", .string name)]
  | .literal value => .object [("literal", value)]

/-- A condition as a value of a model. -/
def toJson : Condition → Json
  | equals field value =>
    .object [("type", .string "Equals"), ("field", .string field), ("value", valueToJson value)]
  | preset name args =>
    .object [("type", .string "Preset"), ("name", .string name), ("args", .ofTexts args)]

end Condition

end ResourceModel

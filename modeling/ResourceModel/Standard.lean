import ResourceModel.Error

set_option autoImplicit false

/-! # API standards

Each standard has a bundle of schema documents of its own. -/

namespace ResourceModel

/-- The standard that a schema belongs to. -/
inductive Standard where
  | redfish
  | swordfish
  deriving DecidableEq, Repr

namespace Standard

/-- The name of a standard, which is also its path in emitted trees. -/
def name : Standard → String
  | redfish => "redfish"
  | swordfish => "redfish/swordfish"

/-- The standard of a name. -/
def ofName (name : String) : Except Error Standard :=
  if name = "redfish" then .ok redfish
  else if name = "redfish/swordfish" then .ok swordfish
  else .error (.unsupportedStandard name)

/-- The standard that a reference implies: one that mentions `swordfish` anywhere belongs to it. -/
def ofUri (uri : String) : Standard :=
  if holds "swordfish" uri then swordfish else redfish

@[simp]
theorem ofName_name (standard : Standard) : ofName standard.name = .ok standard := by
  cases standard <;> rfl

end Standard

end ResourceModel

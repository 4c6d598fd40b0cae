import ResourceModel.Registry.Basic
import ResourceModel.Store

set_option autoImplicit false

/-! # The state of a run

What a run has read and what it has registered. Reading and registering are steps over one part of
the state. -/

namespace ResourceModel

/-- The documents and the registered schemas of a run. -/
structure Session where
  store : Store
  registry : Registry

namespace Session

/-- The state at the start of a run. -/
def start : Session :=
  ⟨.empty, .empty⟩

/-- A step over the documents. -/
def reading {α : Type} (step : Step Store α) : Step Session α :=
  step.onPart Session.store fun session store => { session with store }

/-- A step over the registered schemas. -/
def registering {α : Type} (step : Step Registry α) : Step Session α :=
  step.onPart Session.registry fun session registry => { session with registry }

end Session

end ResourceModel

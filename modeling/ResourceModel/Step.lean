import ResourceModel.Error

set_option autoImplicit false

/-! # Steps of a run

A step reads and changes a state and may fail. A step that fails leaves the state as it was when
the failure was met, so what was done before it stays done. -/

namespace ResourceModel

/-- A step over states of type `σ` that answers a value of type `α`. -/
abbrev Step (σ α : Type) := EStateM Error σ α

namespace Step

variable {σ τ α : Type}

/-- The step that answers the outcome of a computation without a state. -/
def ofExcept (outcome : Except Error α) : Step σ α :=
  match outcome with
  | .ok value => pure value
  | .error error => throw error

/-- A value that has to be there; the step fails with `error` where it is not. -/
def require (value : Option α) (error : Error) : Step σ α :=
  match value with
  | some value => pure value
  | none => throw error

/-- A step over a part of the state; the rest of the state stays as it is. -/
def onPart (part : σ → τ) (withPart : σ → τ → σ) (step : Step τ α) : Step σ α := fun state =>
  match step (part state) with
  | .ok value changed => .ok value (withPart state changed)
  | .error error changed => .error error (withPart state changed)

/-- A step for each of the given values, one after the other, up to one that fails. -/
def each (step : α → Step σ Unit) : List α → Step σ Unit
  | [] => return ()
  | value :: rest => do
    step value
    each step rest

/-- The outcome of a step and the state it leaves. -/
def outcome (step : Step σ α) (state : σ) : Except Error α × σ :=
  match step state with
  | .ok value state => (.ok value, state)
  | .error error state => (.error error, state)

end Step

end ResourceModel

import Mathlib.Data.List.Forall2
import ResourceModel.Step

set_option autoImplicit false

/-! # Reasoning about steps

A step that fails keeps the state in which it failed, so a property of the state is carried through
a run by showing that every part of the run keeps it, whether it succeeds or not: `Step.Keeps`, with
a rule for each way in which steps are put together. What a successful run went through is read off
with the lemmas `…_eq_ok`. -/

namespace ResourceModel.Step

variable {σ τ α β : Type}

/-! ## What a step answers -/

@[simp]
theorem pure_apply (value : α) (state : σ) : (pure value : Step σ α) state = .ok value state := rfl

@[simp]
theorem throw_apply (error : Error) (state : σ) :
    (throw error : Step σ α) state = .error error state := rfl

@[simp]
theorem get_apply (state : σ) : (get : Step σ σ) state = .ok state state := rfl

@[simp]
theorem modify_apply (change : σ → σ) (state : σ) :
    (modify change : Step σ PUnit) state = .ok ⟨⟩ (change state) := rfl

theorem bind_apply (step : Step σ α) (next : α → Step σ β) (state : σ) :
    (step >>= next) state =
      match step state with
      | .ok value changed => next value changed
      | .error error changed => .error error changed := by
  change EStateM.bind step next state = _
  unfold EStateM.bind
  cases step state <;> rfl

theorem bind_eq_ok {step : Step σ α} {next : α → Step σ β} {state final : σ} {value : β} :
    (step >>= next) state = .ok value final ↔
      ∃ first middle, step state = .ok first middle ∧ next first middle = .ok value final := by
  rw [bind_apply]
  cases step state with
  | ok first middle =>
    constructor
    · intro h
      exact ⟨first, middle, rfl, h⟩
    · rintro ⟨_, _, h, hnext⟩
      cases h
      exact hnext
  | error error middle => simp

theorem bind_eq_error {step : Step σ α} {next : α → Step σ β} {state final : σ} {error : Error} :
    (step >>= next) state = .error error final ↔
      step state = .error error final ∨
        ∃ first middle, step state = .ok first middle ∧ next first middle = .error error final := by
  rw [bind_apply]
  cases step state with
  | ok first middle =>
    constructor
    · intro h
      exact Or.inr ⟨first, middle, rfl, h⟩
    · rintro (h | ⟨_, _, h, hnext⟩)
      · cases h
      · cases h
        exact hnext
  | error error changed => simp

theorem pure_eq_ok {answer value : α} {state final : σ} :
    (pure answer : Step σ α) state = .ok value final ↔ value = answer ∧ final = state := by
  simp [eq_comm]

theorem ofExcept_eq_ok {outcome : Except Error α} {state final : σ} {value : α} :
    ofExcept outcome state = .ok value final ↔ outcome = .ok value ∧ final = state := by
  cases outcome with
  | ok found => simp [ofExcept, eq_comm]
  | error error => simp [ofExcept]

theorem require_eq_ok {found : Option α} {error : Error} {state final : σ} {value : α} :
    require found error state = .ok value final ↔ found = some value ∧ final = state := by
  cases found with
  | some found => simp [require, eq_comm]
  | none => simp [require]

theorem ofExcept_bind_eq_ok {outcome : Except Error α} {next : α → Step σ β} {state final : σ}
    {value : β} :
    (ofExcept outcome >>= next) state = .ok value final ↔
      ∃ found, outcome = .ok found ∧ next found state = .ok value final := by
  cases outcome <;> simp [ofExcept, bind_apply]

theorem require_bind_eq_ok {found : Option α} {error : Error} {next : α → Step σ β}
    {state final : σ} {value : β} :
    (require found error >>= next) state = .ok value final ↔
      ∃ there, found = some there ∧ next there state = .ok value final := by
  cases found <;> simp [require, bind_apply]

theorem onPart_eq_ok {part : σ → τ} {withPart : σ → τ → σ} {step : Step τ α} {state final : σ}
    {value : α} :
    step.onPart part withPart state = .ok value final ↔
      ∃ changed, step (part state) = .ok value changed ∧ final = withPart state changed := by
  unfold onPart
  cases step (part state) with
  | ok found changed =>
    constructor
    · intro h
      cases h
      exact ⟨changed, rfl, rfl⟩
    · rintro ⟨_, h, rfl⟩
      cases h
      rfl
  | error error changed => simp

theorem onPart_eq_error {part : σ → τ} {withPart : σ → τ → σ} {step : Step τ α} {state final : σ}
    {error : Error} :
    step.onPart part withPart state = .error error final ↔
      ∃ changed, step (part state) = .error error changed ∧ final = withPart state changed := by
  unfold onPart
  cases step (part state) with
  | ok found changed => simp
  | error found changed =>
    constructor
    · intro h
      cases h
      exact ⟨changed, rfl, rfl⟩
    · rintro ⟨_, h, rfl⟩
      cases h
      rfl

/-! ### Computations without a state -/

section Except

variable {ε : Type}

theorem except_bind_eq_ok {first : Except ε α} {next : α → Except ε β} {value : β} :
    (first >>= next) = .ok value ↔ ∃ found, first = .ok found ∧ next found = .ok value := by
  cases first with
  | ok found =>
    constructor
    · intro h
      exact ⟨found, rfl, h⟩
    · rintro ⟨_, h, hnext⟩
      cases h
      exact hnext
  | error error => simp [bind, Except.bind]

theorem except_map_eq_ok {first : Except ε α} {change : α → β} {value : β} :
    first.map change = .ok value ↔ ∃ found, first = .ok found ∧ change found = value := by
  cases first <;> simp [Except.map]

/-- A list of computations succeeds exactly if each of them does, with the list of their answers. -/
theorem except_mapM_eq_ok {step : α → Except ε β} {values : List α} {answers : List β} :
    values.mapM step = .ok answers ↔
      List.Forall₂ (fun value answer => step value = .ok answer) values answers := by
  induction values generalizing answers with
  | nil =>
    rw [List.mapM_nil, List.forall₂_nil_left_iff]
    exact ⟨fun h => (Except.ok.inj h).symm, fun h => h ▸ rfl⟩
  | cons value rest ih =>
    rw [List.mapM_cons, except_bind_eq_ok, List.forall₂_cons_left_iff]
    constructor
    · rintro ⟨answer, hvalue, hrest⟩
      obtain ⟨others, hothers, hanswers⟩ := except_bind_eq_ok.1 hrest
      exact ⟨answer, others, hvalue, ih.1 hothers, (Except.ok.inj hanswers).symm⟩
    · rintro ⟨answer, others, hvalue, hothers, rfl⟩
      exact ⟨answer, hvalue, except_bind_eq_ok.2 ⟨others, ih.2 hothers, rfl⟩⟩

end Except

/-! ## Deciding what a step answers

What a step answers in a given state is found by running it. -/

section Deciding

variable (step : Step σ α) (state : σ)

instance decidableOk : Decidable (∃ value final, step state = .ok value final) :=
  match step state with
  | .ok value final => isTrue ⟨value, final, rfl⟩
  | .error _ _ => isFalse (by simp)

instance decidableOkAnd (holds : α → σ → Prop) [∀ value final, Decidable (holds value final)] :
    Decidable (∃ value final, step state = .ok value final ∧ holds value final) :=
  match step state with
  | .ok value final => decidable_of_iff (holds value final)
      ⟨fun h => ⟨value, final, rfl, h⟩, by rintro ⟨_, _, ⟨⟩, h⟩; exact h⟩
  | .error _ _ => isFalse (by simp)

instance decidableErrorAnd (holds : Error → σ → Prop)
    [∀ error final, Decidable (holds error final)] :
    Decidable (∃ error final, step state = .error error final ∧ holds error final) :=
  match step state with
  | .ok _ _ => isFalse (by simp)
  | .error error final => decidable_of_iff (holds error final)
      ⟨fun h => ⟨error, final, rfl, h⟩, by rintro ⟨_, _, ⟨⟩, h⟩; exact h⟩

instance decidableOkSomeAnd (step : Step σ (Option α)) (holds : α → σ → Prop)
    [∀ found final, Decidable (holds found final)] :
    Decidable (∃ found final, step state = .ok (some found) final ∧ holds found final) :=
  match step state with
  | .ok (some found) final => decidable_of_iff (holds found final)
      ⟨fun h => ⟨found, final, rfl, h⟩, by rintro ⟨_, _, ⟨⟩, h⟩; exact h⟩
  | .ok none _ => isFalse (by simp)
  | .error _ _ => isFalse (by simp)

end Deciding

/-! ## A property of what a step answers -/

/-- Whether what a step answers has a property. -/
def Answers (holds : α → Prop) (step : Step σ α) : Prop :=
  ∀ state value final, step state = .ok value final → holds value

namespace Answers

variable {holds : α → Prop}

protected theorem pure {value : α} (h : holds value) : Answers holds (pure value : Step σ α) := by
  intro state answer final hanswer
  obtain ⟨rfl, -⟩ := pure_eq_ok.1 hanswer
  exact h

protected theorem throw (error : Error) : Answers holds (throw error : Step σ α) := by
  intro state answer final hanswer
  cases hanswer

protected theorem ofExcept {outcome : Except Error α}
    (h : ∀ value, outcome = .ok value → holds value) :
    Answers holds (ofExcept outcome : Step σ α) := by
  intro state answer final hanswer
  exact h answer (ofExcept_eq_ok.1 hanswer).1

/-- The second step may use what is known of the answer of the first one. -/
protected theorem bind {first : β → Prop} {step : Step σ β} {next : β → Step σ α}
    (answers : Answers first step) (h : ∀ value, first value → Answers holds (next value)) :
    Answers holds (step >>= next) := by
  intro state answer final hanswer
  obtain ⟨value, middle, hstep, hnext⟩ := bind_eq_ok.1 hanswer
  exact h value (answers state value middle hstep) middle answer final hnext

/-- Of the first step nothing has to be known. -/
protected theorem behind {step : Step σ β} {next : β → Step σ α}
    (h : ∀ value, Answers holds (next value)) : Answers holds (step >>= next) := by
  have anything : Answers (fun _ => True) step := fun _ _ _ _ => trivial
  exact anything.bind fun value _ => h value

end Answers

/-! ## The state that a step leaves, and its answer -/

/-- The state that a step leaves, whether it succeeds or fails. -/
def after (step : Step σ α) (state : σ) : σ :=
  (step.outcome state).2

theorem after_of_ok {step : Step σ α} {state final : σ} {value : α}
    (h : step state = .ok value final) : step.after state = final := by
  simp [after, outcome, h]

theorem after_of_error {step : Step σ α} {state final : σ} {error : Error}
    (h : step state = .error error final) : step.after state = final := by
  simp [after, outcome, h]

theorem after_bind (step : Step σ α) (next : α → Step σ β) (state : σ) :
    (step >>= next).after state =
      match step state with
      | .ok value changed => (next value).after changed
      | .error _ changed => changed := by
  unfold after outcome
  rw [bind_apply]
  cases step state <;> rfl

/-- Of two steps in a row, the second one may use what the first one answered. -/
theorem holds_after_bind {holds : σ → Prop} {step : Step σ α} {next : α → Step σ β} {state : σ}
    (first : holds (step.after state))
    (second : ∀ value changed, step state = .ok value changed → holds changed →
      holds ((next value).after changed)) : holds ((step >>= next).after state) := by
  rw [after_bind]
  cases h : step state with
  | ok value changed =>
    rw [after_of_ok h] at first
    exact second value changed h first
  | error error changed =>
    rw [after_of_error h] at first
    exact first

theorem after_onPart (part : σ → τ) (withPart : σ → τ → σ) (step : Step τ α) (state : σ) :
    (step.onPart part withPart).after state = withPart state (step.after (part state)) := by
  unfold after outcome onPart
  cases step (part state) <;> rfl

/-- What a step answers: a value or an error. -/
def answer (step : Step σ α) (state : σ) : Except Error α :=
  (step.outcome state).1

theorem answer_of_ok {step : Step σ α} {state final : σ} {value : α}
    (h : step state = .ok value final) : step.answer state = .ok value := by
  simp [answer, outcome, h]

theorem answer_of_error {step : Step σ α} {state final : σ} {error : Error}
    (h : step state = .error error final) : step.answer state = .error error := by
  simp [answer, outcome, h]

theorem answer_bind (step : Step σ α) (next : α → Step σ β) (state : σ) :
    (step >>= next).answer state =
      match step state with
      | .ok value changed => (next value).answer changed
      | .error error _ => .error error := by
  unfold answer outcome
  rw [bind_apply]
  cases step state <;> rfl

theorem answer_map (step : Step σ α) (change : α → β) (state : σ) :
    (step >>= fun value => pure (change value)).answer state = (step.answer state).map change := by
  rw [answer_bind]
  unfold answer outcome
  cases step state <;> rfl

theorem answer_onPart (part : σ → τ) (withPart : σ → τ → σ) (step : Step τ α) (state : σ) :
    (step.onPart part withPart).answer state = step.answer (part state) := by
  unfold answer outcome onPart
  cases step (part state) <;> rfl

/-! ## Keeping a property of the state -/

/-- Whether a step keeps a property of the state, also where it fails. -/
def Keeps (holds : σ → Prop) (step : Step σ α) : Prop :=
  ∀ state, holds state → holds (step.after state)

namespace Keeps

variable {holds : σ → Prop}

theorem of_ok {step : Step σ α} (keeps : Keeps holds step) {state final : σ} {value : α}
    (h : step state = .ok value final) (before : holds state) : holds final := by
  rw [← after_of_ok h]
  exact keeps state before

protected theorem pure (value : α) : Keeps holds (pure value : Step σ α) :=
  fun _ before => before

protected theorem throw (error : Error) : Keeps holds (throw error : Step σ α) :=
  fun _ before => before

protected theorem get : Keeps holds (get : Step σ σ) :=
  fun _ before => before

protected theorem modify {change : σ → σ} (h : ∀ state, holds state → holds (change state)) :
    Keeps holds (modify change : Step σ PUnit) :=
  h

protected theorem ofExcept (outcome : Except Error α) : Keeps holds (ofExcept outcome) := by
  cases outcome with
  | ok value => exact Keeps.pure value
  | error error => exact Keeps.throw error

protected theorem require (value : Option α) (error : Error) :
    Keeps holds (require value error) := by
  cases value with
  | some value => exact Keeps.pure value
  | none => exact Keeps.throw error

protected theorem bind {step : Step σ α} {next : α → Step σ β} (first : Keeps holds step)
    (second : ∀ value, Keeps holds (next value)) : Keeps holds (step >>= next) :=
  fun state before =>
    holds_after_bind (first state before) fun value changed _ middle => second value changed middle

/-- A step over a part of the state keeps a property of the whole, if the part has a property that
    the step keeps and that is enough for the whole. -/
protected theorem onPart {part : σ → τ} {withPart : σ → τ → σ} {ofPart : τ → Prop}
    {step : Step τ α} (keeps : Keeps ofPart step) (enter : ∀ state, holds state → ofPart (part state))
    (leave : ∀ state changed, holds state → ofPart changed → holds (withPart state changed)) :
    Keeps holds (step.onPart part withPart) := by
  intro state before
  rw [after_onPart]
  exact leave state _ before (keeps _ (enter state before))

protected theorem each {step : α → Step σ Unit} {values : List α}
    (keeps : ∀ value ∈ values, Keeps holds (step value)) : Keeps holds (each step values) := by
  induction values with
  | nil => exact Keeps.pure ()
  | cons value rest ih =>
    rw [List.forall_mem_cons] at keeps
    exact Keeps.bind keeps.1 fun _ => ih keeps.2

end Keeps

/-! ## Failing without a change -/

/-- Whether a step that fails keeps a property of the state. One that succeeds may lose it. -/
def KeepsFailing (holds : σ → Prop) (step : Step σ α) : Prop :=
  ∀ state error final, holds state → step state = .error error final → holds final

namespace KeepsFailing

variable {holds : σ → Prop}

/-- What comes before the last step has to keep the property also where it succeeds. -/
protected theorem bind {step : Step σ α} {next : α → Step σ β} (first : Keeps holds step)
    (second : ∀ value, KeepsFailing holds (next value)) : KeepsFailing holds (step >>= next) := by
  intro state error final before h
  rcases bind_eq_error.1 h with hstep | ⟨value, middle, hstep, hnext⟩
  · rw [← after_of_error hstep]
    exact first state before
  · exact second value middle error final (first.of_ok hstep before) hnext

end KeepsFailing

/-! ## How a step fails -/

/-- Whether a step fails with no other than the given errors. -/
def FailsIn (errors : Error → Prop) (step : Step σ α) : Prop :=
  ∀ state error final, step state = .error error final → errors error

namespace FailsIn

variable {errors : Error → Prop}

protected theorem pure (value : α) : FailsIn errors (pure value : Step σ α) := by
  intro state error final h
  cases h

protected theorem get : FailsIn errors (get : Step σ σ) := by
  intro state error final h
  cases h

protected theorem modify (change : σ → σ) : FailsIn errors (modify change : Step σ PUnit) := by
  intro state error final h
  cases h

protected theorem throw {error : Error} (h : errors error) :
    FailsIn errors (throw error : Step σ α) := by
  intro state found final hfound
  cases hfound
  exact h

protected theorem imp {step : Step σ α} (fails : FailsIn errors step) {others : Error → Prop}
    (h : ∀ error, errors error → others error) : FailsIn others step :=
  fun state error final hstep => h error (fails state error final hstep)

protected theorem ofExcept {outcome : Except Error α}
    (h : ∀ error, outcome = .error error → errors error) :
    FailsIn errors (ofExcept outcome : Step σ α) := by
  cases outcome with
  | ok value => exact .pure value
  | error error => exact .throw (h error rfl)

protected theorem require (value : Option α) {error : Error} (h : errors error) :
    FailsIn errors (require value error : Step σ α) := by
  cases value with
  | some value => exact .pure value
  | none => exact .throw h

protected theorem bind {step : Step σ α} {next : α → Step σ β} (first : FailsIn errors step)
    (second : ∀ value, FailsIn errors (next value)) : FailsIn errors (step >>= next) := by
  intro state error final h
  rw [bind_apply] at h
  split at h
  · next value changed _ => exact second value changed error final h
  · next found changed hfirst =>
    cases h
    exact first state error final hfirst

protected theorem onPart {part : σ → τ} {withPart : σ → τ → σ} {step : Step τ α}
    (fails : FailsIn errors step) : FailsIn errors (step.onPart part withPart) := by
  intro state error final h
  unfold onPart at h
  split at h
  · cases h
  · next found changed hstep =>
    cases h
    exact fails _ error changed hstep

protected theorem each {step : α → Step σ Unit} (fails : ∀ value, FailsIn errors (step value))
    (values : List α) : FailsIn errors (each step values) := by
  induction values with
  | nil => exact .pure ()
  | cons value rest ih => exact .bind (fails value) fun _ => ih

end FailsIn

/-- Whether a step fails with no other than the given errors in states with a property. -/
def FailsFrom (holds : σ → Prop) (errors : Error → Prop) (step : Step σ α) : Prop :=
  ∀ state error final, holds state → step state = .error error final → errors error

namespace FailsFrom

variable {holds : σ → Prop} {errors : Error → Prop}

protected theorem of_failsIn {step : Step σ α} (fails : FailsIn errors step) :
    FailsFrom holds errors step :=
  fun state error final _ => fails state error final

protected theorem bind {step : Step σ α} {next : α → Step σ β} (keeps : Keeps holds step)
    (first : FailsFrom holds errors step) (second : ∀ value, FailsFrom holds errors (next value)) :
    FailsFrom holds errors (step >>= next) := by
  intro state error final before h
  rcases bind_eq_error.1 h with hstep | ⟨value, middle, hstep, hnext⟩
  · exact first state error final before hstep
  · exact second value middle error final (keeps.of_ok hstep before) hnext

/-- A step whose value has to be there fails as the step does, or with the error for no value. -/
protected theorem require {step : Step σ (Option α)} (fails : FailsIn errors step) {error : Error}
    (h : ∀ state final, holds state → step state = .ok none final → errors error) :
    FailsFrom holds errors (step >>= fun value => require value error) := by
  intro state found final before hfails
  rcases bind_eq_error.1 hfails with hstep | ⟨value, middle, hstep, hnext⟩
  · exact fails state found final hstep
  · cases value with
    | some value => cases hnext
    | none =>
      cases hnext
      exact h state _ before hstep

protected theorem onPart {part : σ → τ} {withPart : σ → τ → σ} {ofPart : τ → Prop}
    {step : Step τ α} (fails : FailsFrom ofPart errors step)
    (enter : ∀ state, holds state → ofPart (part state)) :
    FailsFrom holds errors (step.onPart part withPart) := by
  intro state error final before h
  unfold onPart at h
  split at h
  · cases h
  · next found changed hstep =>
    cases h
    exact fails _ error changed (enter state before) hstep

protected theorem each {step : α → Step σ Unit} {values : List α}
    (keeps : ∀ value ∈ values, Keeps holds (step value))
    (fails : ∀ value ∈ values, FailsFrom holds errors (step value)) :
    FailsFrom holds errors (each step values) := by
  induction values with
  | nil => exact .of_failsIn (.pure ())
  | cons value rest ih =>
    rw [List.forall_mem_cons] at keeps fails
    exact .bind keeps.1 fails.1 fun _ => ih keeps.2 fails.2

end FailsFrom

/-! ## Doing a step again -/

/-- Whether a step that has succeeded leaves a later state, and answers the same and changes nothing
    when it is done again in a state later than that. -/
def Lasts (later : σ → σ → Prop) (step : Step σ α) : Prop :=
  ∀ state value final, step state = .ok value final →
    later state final ∧ ∀ last, later final last → step last = .ok value last

namespace Lasts

variable {later : σ → σ → Prop}

protected theorem pure (refl : ∀ state, later state state) (value : α) :
    Lasts later (pure value : Step σ α) := by
  intro state answer final h
  obtain ⟨rfl, rfl⟩ := pure_eq_ok.1 h
  exact ⟨refl _, fun _ _ => rfl⟩

protected theorem ofExcept (refl : ∀ state, later state state) (outcome : Except Error α) :
    Lasts later (ofExcept outcome : Step σ α) := by
  intro state answer final h
  obtain ⟨rfl, rfl⟩ := ofExcept_eq_ok.1 h
  exact ⟨refl _, fun _ _ => rfl⟩

protected theorem require (refl : ∀ state, later state state) (value : Option α) (error : Error) :
    Lasts later (require value error : Step σ α) := by
  intro state answer final h
  obtain ⟨rfl, rfl⟩ := require_eq_ok.1 h
  exact ⟨refl _, fun _ _ => rfl⟩

protected theorem modify {change : σ → σ} (grows : ∀ state, later state (change state))
    (settled : ∀ state last, later (change state) last → change last = last) :
    Lasts later (modify change : Step σ PUnit) := by
  intro state answer final h
  cases h
  refine ⟨grows state, fun last hlast => ?_⟩
  rw [modify_apply, settled state last hlast]

protected theorem bind (trans : ∀ first second third, later first second → later second third →
    later first third) {step : Step σ α} {next : α → Step σ β} (first : Lasts later step)
    (second : ∀ value, Lasts later (next value)) : Lasts later (step >>= next) := by
  intro state answer final h
  obtain ⟨value, middle, hstep, hnext⟩ := bind_eq_ok.1 h
  obtain ⟨hmiddle, again⟩ := first state value middle hstep
  obtain ⟨hfinal, againNext⟩ := second value middle answer final hnext
  refine ⟨trans _ _ _ hmiddle hfinal, fun last hlast => ?_⟩
  exact bind_eq_ok.2 ⟨value, last, again last (trans _ _ _ hfinal hlast), againNext last hlast⟩

protected theorem onPart {part : σ → τ} {withPart : σ → τ → σ} {ofPart : τ → τ → Prop}
    {step : Step τ α} (lasts : Lasts ofPart step)
    (enter : ∀ state last, later state last → ofPart (part state) (part last))
    (leave : ∀ state changed, ofPart (part state) changed → later state (withPart state changed))
    (part_with : ∀ state changed, part (withPart state changed) = changed)
    (with_part : ∀ state, withPart state (part state) = state) :
    Lasts later (step.onPart part withPart) := by
  intro state answer final h
  obtain ⟨changed, hstep, rfl⟩ := onPart_eq_ok.1 h
  obtain ⟨hchanged, again⟩ := lasts _ _ _ hstep
  refine ⟨leave state changed hchanged, fun last hlast => ?_⟩
  have hlater := enter _ _ hlast
  rw [part_with] at hlater
  exact onPart_eq_ok.2 ⟨part last, again _ hlater, (with_part last).symm⟩

protected theorem each (refl : ∀ state, later state state)
    (trans : ∀ first second third, later first second → later second third →
      later first third) {step : α → Step σ Unit} (lasts : ∀ value, Lasts later (step value))
    (values : List α) : Lasts later (each step values) := by
  induction values with
  | nil => exact .pure refl ()
  | cons value rest ih => exact .bind trans (lasts value) fun _ => ih

end Lasts

/-! ## Steps for each of many values -/

/-- The calls of the steps for given values: every value that is come to, with the state in which
    its step begins. -/
def calls (step : α → Step σ Unit) : List α → σ → List (α × σ)
  | [], _ => []
  | value :: rest, state =>
    (value, state) ::
      match step value state with
      | .ok _ changed => calls step rest changed
      | .error _ _ => []

theorem each_cons_eq_ok {step : α → Step σ Unit} {value : α} {rest : List α} {state final : σ} :
    each step (value :: rest) state = .ok () final ↔
      ∃ middle, step value state = .ok () middle ∧ each step rest middle = .ok () final := by
  rw [each, bind_eq_ok]
  constructor
  · rintro ⟨⟨⟩, middle, h⟩
    exact ⟨middle, h⟩
  · rintro ⟨middle, h⟩
    exact ⟨(), middle, h⟩

theorem calls_cons_of_ok {step : α → Step σ Unit} {value : α} {state middle : σ}
    (h : step value state = .ok () middle) (rest : List α) :
    calls step (value :: rest) state = (value, state) :: calls step rest middle := by
  simp [calls, h]

/-- Steps that all succeed are all come to. -/
theorem map_fst_calls {step : α → Step σ Unit} {values : List α} {state final : σ}
    (h : each step values state = .ok () final) : (calls step values state).map Prod.fst = values := by
  induction values generalizing state with
  | nil => rfl
  | cons value rest ih =>
    obtain ⟨middle, hstep, hrest⟩ := each_cons_eq_ok.1 h
    rw [calls_cons_of_ok hstep, List.map_cons, ih hrest]

/-- Each of steps that all succeed succeeds in a state with a property that they keep. -/
theorem exists_ok_of_each {step : α → Step σ Unit} {holds : σ → Prop} {values : List α}
    (keeps : ∀ value ∈ values, Keeps holds (step value)) {state final : σ} (before : holds state)
    (h : each step values state = .ok () final) {value : α} (hvalue : value ∈ values) :
    ∃ first last, holds first ∧ step value first = .ok () last := by
  induction values generalizing state with
  | nil => cases hvalue
  | cons other rest ih =>
    rw [List.forall_mem_cons] at keeps
    obtain ⟨middle, hstep, hrest⟩ := each_cons_eq_ok.1 h
    rcases List.mem_cons.1 hvalue with rfl | hvalue
    · exact ⟨state, middle, before, hstep⟩
    · exact ih keeps.2 (keeps.1.of_ok hstep before) hrest hvalue

theorem each_append (step : α → Step σ Unit) (values further : List α) (state : σ) :
    each step (values ++ further) state =
      (each step values >>= fun _ => each step further) state := by
  induction values generalizing state with
  | nil => rfl
  | cons value rest ih =>
    simp only [List.cons_append, each, bind_apply]
    cases step value state with
    | ok _ middle =>
      simp only [ih, bind_apply]
    | error error middle => rfl

/-- Only the values that are come to count. -/
theorem each_map_fst_calls (step : α → Step σ Unit) (values : List α) (state : σ) :
    each step ((calls step values state).map Prod.fst) state = each step values state := by
  induction values generalizing state with
  | nil => rfl
  | cons value rest ih =>
    simp only [calls, List.map_cons, each, bind_apply]
    cases hstep : step value state with
    | ok _ middle => exact ih middle
    | error error middle => rfl

theorem calls_map_fst_calls (step : α → Step σ Unit) (values : List α) (state : σ) :
    calls step ((calls step values state).map Prod.fst) state = calls step values state := by
  induction values generalizing state with
  | nil => rfl
  | cons value rest ih =>
    simp only [calls, List.map_cons]
    cases hstep : step value state with
    | ok _ middle => simp only [ih]
    | error error middle => rfl

theorem calls_append_of_ok {step : α → Step σ Unit} {values : List α} {state middle : σ}
    (h : each step values state = .ok () middle) (further : List α) :
    calls step (values ++ further) state = calls step values state ++ calls step further middle := by
  induction values generalizing state with
  | nil =>
    cases h
    rfl
  | cons value rest ih =>
    obtain ⟨first, hstep, hrest⟩ := each_cons_eq_ok.1 h
    rw [List.cons_append, calls_cons_of_ok hstep, calls_cons_of_ok hstep, ih hrest,
      List.cons_append]

/-- What holds after steps that all succeed, held before them or was brought about by one of them. -/
theorem holds_each_iff {step : α → Step σ Unit} (holds : σ → Prop) (makes : α × σ → Prop)
    (each_iff : ∀ value state final, step value state = .ok () final →
      (holds final ↔ holds state ∨ makes (value, state)))
    {values : List α} {state final : σ} (h : each step values state = .ok () final) :
    holds final ↔ holds state ∨ ∃ call ∈ calls step values state, makes call := by
  induction values generalizing state with
  | nil =>
    cases h
    simp [calls]
  | cons value rest ih =>
    obtain ⟨middle, hstep, hrest⟩ := each_cons_eq_ok.1 h
    rw [ih hrest, each_iff value state middle hstep, calls_cons_of_ok hstep]
    simp only [List.mem_cons, exists_eq_or_imp, or_assoc]

/-- The same for steps of which it only counts for which value they are. -/
theorem holds_each_iff_value {step : α → Step σ Unit} (holds : σ → Prop) (makes : α → Prop)
    (each_iff : ∀ value state final, step value state = .ok () final →
      (holds final ↔ holds state ∨ makes value))
    {values : List α} {state final : σ} (h : each step values state = .ok () final) :
    holds final ↔ holds state ∨ ∃ value ∈ values, makes value := by
  rw [holds_each_iff holds (fun call => makes call.1) each_iff h]
  refine or_congr Iff.rfl ⟨?_, ?_⟩
  · rintro ⟨call, hcall, hmakes⟩
    have hvalue := List.mem_map_of_mem (f := Prod.fst) hcall
    rw [map_fst_calls h] at hvalue
    exact ⟨call.1, hvalue, hmakes⟩
  · rintro ⟨value, hvalue, hmakes⟩
    rw [← map_fst_calls h] at hvalue
    obtain ⟨call, hcall, rfl⟩ := List.mem_map.1 hvalue
    exact ⟨call, hcall, hmakes⟩

end ResourceModel.Step

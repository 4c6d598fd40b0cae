import ResourceModel.Proofs.Store

set_option autoImplicit false

/-! # Reading through what is kept

What a run has read it keeps, also that there is nothing to read. That makes no difference to what is
answered: whatever was asked before, a call answers what it would answer if nothing had been read,
as long as the same documents are bound. What is kept stays. A call that fails changes nothing but
this: where a document is required for which there is no file, that there is none is kept. -/

namespace ResourceModel.Store

open Step (Keeps)

/-! ## Calls -/

/-- A reading of a document. -/
inductive Reading where
  | load (standard : Standard) (stem : String)
  | require (standard : Standard) (stem : String)
  | loadExtension (name tag : String)
  | target (reference : Reference)

/-- What can be asked of the documents of a run. -/
inductive Call where
  | read (reading : Reading)
  | bind (id : String) (document : Json)

/-- The step that a reading is. -/
def Reading.run (assets : Assets) : Reading → Step Store (Option Json)
  | load standard stem => Store.load assets standard stem
  | require standard stem => do return some (← Store.require assets standard stem)
  | loadExtension name tag => Store.loadExtension assets name tag
  | target reference => Store.target assets reference

/-- The step that a call is. Binding a document answers none. -/
def Call.run (assets : Assets) : Call → Step Store (Option Json)
  | read reading => reading.run assets
  | bind id document => do
    modify fun store => store.bind id document
    return none

/-- The documents of a run after calls, one after the other, whether they succeed or fail. -/
def afterCalls (assets : Assets) (calls : List Call) (store : Store) : Store :=
  calls.foldl (fun store call => (call.run assets).after store) store

/-- Nothing has been read, and the given documents are bound. -/
def unread (bound : Table Json) : Store :=
  ⟨[], [], bound⟩

variable {assets : Assets}

theorem faithful_unread (bound : Table Json) : (unread bound).Faithful assets :=
  ⟨fun _ _ h => by simp [unread] at h, fun _ _ h => by simp [unread] at h⟩

theorem keeps_afterCalls {holds : Store → Prop}
    (keeps : ∀ call : Call, Keeps holds (call.run assets)) (calls : List Call) {store : Store}
    (before : holds store) : holds (afterCalls assets calls store) := by
  induction calls generalizing store with
  | nil => exact before
  | cons call rest ih => exact ih (keeps call store before)

/-! ## What calls keep -/

/-- What is kept by reading a document of a bundle and one of the extension area is kept by every
    reading. -/
theorem Reading.keeps {holds : Store → Prop}
    (load : ∀ standard stem, Keeps holds (Store.load assets standard stem))
    (loadExtension : ∀ name tag, Keeps holds (Store.loadExtension assets name tag))
    (reading : Reading) : Keeps holds (reading.run assets) := by
  cases reading with
  | load standard stem => exact load standard stem
  | require standard stem => exact (keeps_require load standard stem).bind fun _ => .pure _
  | loadExtension name tag => exact loadExtension name tag
  | target reference => exact keeps_target load reference

theorem Call.keeps {holds : Store → Prop}
    (load : ∀ standard stem, Keeps holds (Store.load assets standard stem))
    (loadExtension : ∀ name tag, Keeps holds (Store.loadExtension assets name tag))
    (bind : ∀ store id document, holds store → holds (store.bind id document)) (call : Call) :
    Keeps holds (call.run assets) := by
  cases call with
  | read reading => exact reading.keeps load loadExtension
  | bind id document =>
    exact (Keeps.modify fun store h => bind store id document h).bind fun _ => .pure _

theorem Call.keeps_faithful (call : Call) : Keeps (Faithful assets) (call.run assets) :=
  call.keeps keeps_faithful_load keeps_faithful_loadExtension
    fun _ _ _ h => ⟨h.documents, h.extensions⟩

theorem faithful_afterCalls (calls : List Call) : (afterCalls assets calls empty).Faithful assets :=
  keeps_afterCalls Call.keeps_faithful calls faithful_empty

/-! ## Answers -/

theorem answer_require (store : Store) (standard : Standard) (stem : String) :
    (require assets standard stem).answer store =
      match store.document? assets standard stem with
      | .ok (some document) => .ok document
      | .ok none => .error (assets.missingJson standard stem)
      | .error error => .error error := by
  rw [← answer_load, require, Step.answer_bind]
  cases hload : load assets standard stem store with
  | error error failed => rw [Step.answer_of_error hload]
  | ok found changed =>
    rw [Step.answer_of_ok hload]
    cases found <;> rfl

theorem Faithful.named?_eq {store other : Store} (h : store.Faithful assets)
    (h' : other.Faithful assets) (bound : other.bound = store.bound) (reference : Reference) :
    other.named? assets reference = store.named? assets reference := by
  unfold named?
  rw [bound, h.document?_eq, h'.document?_eq]

/-- Of two stores that keep only what stands in the files, both answer a call alike, if the same
    documents are bound. -/
theorem Faithful.answer_congr {store other : Store} (h : store.Faithful assets)
    (h' : other.Faithful assets) (bound : other.bound = store.bound) (call : Call) :
    (call.run assets).answer other = (call.run assets).answer store := by
  cases call with
  | bind id document => rfl
  | read reading =>
    cases reading with
    | load standard stem =>
      show (load assets standard stem).answer other = (load assets standard stem).answer store
      rw [answer_load, answer_load, h.document?_eq, h'.document?_eq]
    | require standard stem =>
      show (require assets standard stem >>= fun document => pure (some document)).answer other =
        (require assets standard stem >>= fun document => pure (some document)).answer store
      rw [Step.answer_map, Step.answer_map, answer_require, answer_require, h.document?_eq,
        h'.document?_eq]
    | loadExtension name tag =>
      show (loadExtension assets name tag).answer other = (loadExtension assets name tag).answer store
      rw [h.answer_loadExtension, h'.answer_loadExtension]
    | target reference =>
      show (target assets reference).answer other = (target assets reference).answer store
      rw [answer_target, answer_target, h.named?_eq h' bound]

/-! ## What stays kept -/

/-- Whether all that is kept in a store is kept in a later one. -/
structure Remembers (store later : Store) : Prop where
  documents : ∀ key found, store.documents.lookup key = some found →
    later.documents.lookup key = some found
  extensions : ∀ stem found, store.extensions.lookup stem = some found →
    later.extensions.lookup stem = some found

theorem Remembers.refl (store : Store) : store.Remembers store :=
  ⟨fun _ _ h => h, fun _ _ h => h⟩

theorem keeps_remembers_load (store : Store) (standard : Standard) (stem : String) :
    Keeps store.Remembers (load assets standard stem) := by
  intro later h
  rw [load, Step.after_onPart]
  exact ⟨fun key found hfound => keeps_lookup_cached _ (h.documents key found hfound),
    h.extensions⟩

theorem keeps_remembers_loadExtension (store : Store) (name tag : String) :
    Keeps store.Remembers (loadExtension assets name tag) := by
  intro later h
  rw [loadExtension, Step.after_onPart]
  exact ⟨h.documents,
    fun stem found hfound => keeps_lookup_cached _ (h.extensions stem found hfound)⟩

theorem Call.keeps_remembers (store : Store) (call : Call) :
    Keeps store.Remembers (call.run assets) :=
  call.keeps (keeps_remembers_load store) (keeps_remembers_loadExtension store)
    fun _ _ _ h => ⟨h.documents, h.extensions⟩

/-! ## Calls that fail -/

/-- What a call that fails leaves: everything as it was, or what was learned by requiring a document
    for the first time for which there is no file. -/
inductive LeftBy (assets : Assets) (store : Store) : Call → Store → Prop where
  | unchanged (call : Call) : LeftBy assets store call store
  | learned (standard : Standard) (stem : String)
      (new : store.documents.lookup (standard, stem) = none)
      (absent : assets.document? standard stem = .ok none) :
      LeftBy assets store (.read (.require standard stem))
        { store with documents := ((standard, stem), none) :: store.documents }

theorem load_eq_error {store failed : Store} {standard : Standard} {stem : String} {error : Error}
    (h : load assets standard stem store = .error error failed) : failed = store := by
  obtain ⟨rows, hcached, rfl⟩ := Step.onPart_eq_error.1 h
  rw [cached_eq_error hcached]

theorem loadExtension_eq_error {store failed : Store} {name tag : String} {error : Error}
    (h : loadExtension assets name tag store = .error error failed) : failed = store := by
  obtain ⟨rows, hcached, rfl⟩ := Step.onPart_eq_error.1 h
  rw [cached_eq_error hcached]

theorem target_eq_error {store failed : Store} {reference : Reference} {error : Error}
    (h : target assets reference store = .error error failed) : failed = store := by
  unfold target at h
  cases hstem : reference.stem? with
  | none =>
    rw [hstem] at h
    cases h
  | some stem =>
    rw [hstem] at h
    simp only [Step.bind_apply, Step.get_apply] at h
    cases hbound : Table.get? store.bound stem with
    | some document =>
      rw [hbound] at h
      cases h
    | none =>
      rw [hbound] at h
      exact load_eq_error h

/-- That a document has no file is learned where it is asked for the first time. -/
theorem load_eq_ok_none {store changed : Store} {standard : Standard} {stem : String}
    (h : load assets standard stem store = .ok none changed) :
    changed = store ∨
      store.documents.lookup (standard, stem) = none ∧
        assets.document? standard stem = .ok none ∧
        changed = { store with documents := ((standard, stem), none) :: store.documents } := by
  obtain ⟨rows, hcached, rfl⟩ := Step.onPart_eq_ok.1 h
  rw [cached_apply] at hcached
  split at hcached
  · cases hcached
    exact Or.inl rfl
  · next found hnew hfound =>
    cases hcached
    exact Or.inr ⟨hnew, hfound, rfl⟩
  · cases hcached

theorem leftBy_of_error {store failed : Store} {call : Call} {error : Error}
    (h : call.run assets store = .error error failed) : LeftBy assets store call failed := by
  cases call with
  | bind id document => cases h
  | read reading =>
    cases reading with
    | load standard stem =>
      rw [load_eq_error h]
      exact .unchanged _
    | require standard stem =>
      rcases Step.bind_eq_error.1 h with hrequire | ⟨_, _, _, hanswer⟩
      · rcases Step.bind_eq_error.1 hrequire with hload | ⟨found, changed, hload, hfound⟩
        · rw [load_eq_error hload]
          exact .unchanged _
        · -- the reading itself went well, there is only no document
          cases found with
          | some document => cases hfound
          | none =>
            cases hfound
            rcases load_eq_ok_none hload with rfl | ⟨hnew, habsent, rfl⟩
            · exact .unchanged _
            · exact .learned standard stem hnew habsent
      · cases hanswer
    | loadExtension name tag =>
      rw [loadExtension_eq_error h]
      exact .unchanged _
    | target reference =>
      rw [target_eq_error h]
      exact .unchanged _

/-- Whatever was asked of the documents of a run, a call answers what it would answer if nothing had
    been read and the same documents were bound; all that is kept stays, whatever is asked afterwards;
    and a call that fails changes nothing, but that a document that was required in vain is known to
    be missing, and fails again with the same error as long as the same documents are bound. -/
theorem answer_afterCalls (assets : Assets) (calls : List Call) (call : Call) :
    let store := afterCalls assets calls empty
    (call.run assets).answer store = (call.run assets).answer (unread store.bound) ∧
      (∀ further, store.Remembers (afterCalls assets further store)) ∧
      ∀ error failed, call.run assets store = .error error failed →
        LeftBy assets store call failed ∧
        ∀ further, (afterCalls assets further failed).bound = store.bound →
          (call.run assets).answer (afterCalls assets further failed) = .error error := by
  intro store
  have faithful : store.Faithful assets := faithful_afterCalls calls
  refine ⟨(faithful_unread store.bound).answer_congr faithful rfl call, fun further => ?_,
    fun error failed h => ⟨leftBy_of_error h, fun further hbound => ?_⟩⟩
  · exact keeps_afterCalls (Call.keeps_remembers store) further (.refl store)
  · -- the failed call leaves nothing that is wrong, and neither does what follows
    have after : failed.Faithful assets := by
      rw [← Step.after_of_error h]
      exact call.keeps_faithful store faithful
    have later := keeps_afterCalls Call.keeps_faithful further after
    rw [faithful.answer_congr later hbound call]
    exact Step.answer_of_error h

/-- A document that is required in vain: afterwards it is kept that there is none. -/
theorem not_unchanged_by_failure :
    ¬ ∀ (assets : Assets) (calls : List Call) (call : Call) (error : Error) (failed : Store),
      call.run assets (afterCalls assets calls empty) = .error error failed →
      failed = afterCalls assets calls empty := by
  intro unchanged
  let call := Call.read (.require .redfish "A")
  have h : call.run ⟨⟨[], []⟩, {}⟩ empty =
      .error (Assets.missingJson ⟨⟨[], []⟩, {}⟩ .redfish "A") ⟨[((.redfish, "A"), none)], [], []⟩ :=
    rfl
  have same := congrArg Store.documents (unchanged _ [] call _ _ h)
  cases same

end ResourceModel.Store

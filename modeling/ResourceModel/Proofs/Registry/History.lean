import ResourceModel.Proofs.Registry.Invariant
import ResourceModel.Proofs.Registry.Version

set_option autoImplicit false

/-! # What becomes of an entry

No operation takes an entry away. A versioned entry keeps its version, its standard, its origin and
its document, and stays resolved; one that is not versioned keeps its standard and its origin and
stays resolved too, until a versioned one takes its place. This holds of every registry that can be
reached, whatever the documents are and whether the operations succeed or fail. -/

namespace ResourceModel

/-! ## Entries -/

/-- What an entry may become: it is kept, with what it says about its schema, or a versioned entry
    takes the place of one without a version. -/
inductive Entry.Becomes (entry next : Entry) : Prop where
  | kept (standard : next.standard = entry.standard) (origin : next.origin = entry.origin)
      (version : next.version = entry.version)
      (document : ∀ held, entry.document = some held → next.document = some held)
      (resolved : entry.resolved = true → next.resolved = true)
  | superseded (unversioned : entry.version = none) (versioned : next.version.isSome = true)

namespace Entry.Becomes

theorem refl (entry : Entry) : entry.Becomes entry :=
  .kept rfl rfl rfl (fun _ h => h) fun h => h

theorem trans {first second third : Entry} (h : first.Becomes second)
    (h' : second.Becomes third) : first.Becomes third := by
  cases h with
  | kept standard origin version document resolved =>
    cases h' with
    | kept standard' origin' version' document' resolved' =>
      exact .kept (standard'.trans standard) (origin'.trans origin) (version'.trans version)
        (fun held h => document' held (document held h)) fun h => resolved' (resolved h)
    | superseded unversioned' versioned' =>
      exact .superseded (version.symm.trans unversioned') versioned'
  | superseded unversioned versioned =>
    -- a versioned entry is not superseded again, so the second step keeps it
    cases h' with
    | kept _ _ version' _ _ =>
      refine .superseded unversioned ?_
      rw [version']
      exact versioned
    | superseded unversioned' _ =>
      rw [unversioned'] at versioned
      simp at versioned

end Entry.Becomes

/-! ## Registries -/

namespace Registry

/-- Whether every entry of a registry has become what it may in a later one. -/
def Becomes (old new : Registry) : Prop :=
  ∀ id entry, old.get? id = some entry → ∃ next, new.get? id = some next ∧ entry.Becomes next

theorem Becomes.refl (registry : Registry) : registry.Becomes registry :=
  fun _ entry h => ⟨entry, h, .refl entry⟩

theorem Becomes.trans {first second third : Registry} (h : first.Becomes second)
    (h' : second.Becomes third) : first.Becomes third := by
  intro id entry hentry
  obtain ⟨middle, hmiddle, hstep⟩ := h id entry hentry
  obtain ⟨last, hlast, hstep'⟩ := h' id middle hmiddle
  exact ⟨last, hlast, hstep.trans hstep'⟩

theorem Grows.becomes {old new : Registry} (h : old.Grows new) : old.Becomes new := by
  intro id entry hentry
  obtain ⟨next, hnext, hstep⟩ := h id entry hentry
  refine ⟨next, hnext, ?_⟩
  rcases hstep with rfl | ⟨unversioned, versioned⟩
  · exact .refl next
  · exact .superseded unversioned versioned

theorem Becomes.version?_eq {old new : Registry} (h : old.Becomes new) {id : String}
    {version : Version} (held : old.version? id = some version) :
    new.version? id = some version := by
  obtain ⟨entry, hentry, hversion⟩ := Option.bind_eq_some_iff.1 held
  obtain ⟨next, hnext, hbecomes⟩ := h id entry hentry
  unfold version?
  rw [hnext, Option.bind_some]
  cases hbecomes with
  | kept _ _ kept _ _ => rw [kept, hversion]
  | superseded unversioned _ => rw [unversioned] at hversion; cases hversion

/-- The document of an entry that holds one is the one it holds. -/
theorem documentOf_of_held {assets : Assets} {entry : Entry} {held document : Json}
    {store changed : Store} (hheld : entry.document = some held)
    (h : documentOf assets entry store = .ok document changed) : document = held := by
  unfold documentOf at h
  rw [hheld] at h
  cases h
  rfl

/-- Settling an entry with the document that was read for it keeps all that it holds. -/
theorem becomes_settle {assets : Assets} {old registry : Registry} {entry : Entry} {document : Json}
    {store changed : Store} (grows : old.Grows registry)
    (hentry : old.get? entry.id = some entry)
    (hdocument : documentOf assets entry store = .ok document changed) :
    registry.Becomes (registry.settle entry document) := by
  rcases settle_cases grows hentry document with heq | ⟨hcurrent, hentries⟩
  · rw [heq]
    exact .refl registry
  · intro id existing hexisting
    unfold get?
    rw [hentries, Table.get?_put]
    split
    · next h =>
      subst h
      obtain rfl := Option.some.inj (hcurrent.symm.trans hexisting)
      refine ⟨_, rfl, .kept rfl rfl rfl (fun held hheld => ?_) fun _ => rfl⟩
      rw [documentOf_of_held hheld hdocument]
    · exact ⟨existing, hexisting, .refl existing⟩

/-! ## Reachable registries -/

/-- The registries that operations lead to, with whatever files and documents they are used. -/
inductive Reachable : Registry → Prop where
  | empty : Reachable .empty
  | run {registry : Registry} (h : Reachable registry) (assets : Assets) (store : Store)
      (operation : Operation) :
      Reachable ((operation.run assets).after ⟨store, registry⟩).registry

theorem invariant_becomes (assets : Assets) (old : Registry) :
    Invariant assets (fun _ => True)
      (fun registry => old.Becomes registry ∧ registry.WellFormed) where
  load _ _ _ _ := trivial
  loadExtension _ _ _ _ := trivial
  dependencies registry owner uris h :=
    ⟨h.1.trans (grows_addDependencies assets owner uris registry).becomes,
      h.2.addDependencies assets owner uris⟩
  seed registry standard id h :=
    ⟨h.1.trans (grows_register registry _).becomes, h.2.register (Entry.sound_pending _ _ _)⟩
  extension registry _ extension document _ _ _ h _ :=
    ⟨h.1.trans (grows_register registry _).becomes, h.2.register (Entry.sound_ofExtension _ _ _)⟩
  settle registry store id entry document changed _ h hentry hdocument _ := by
    obtain rfl := h.2.id_of_get? hentry
    -- the references are registered first, which may replace the very entry that is settled
    have grows := grows_addDependencies assets (some entry.id)
      (Scan.ofDocument assets.config.limits.nestingDepth document).references registry
    have kept := becomes_settle grows hentry hdocument
    exact ⟨h.1.trans (grows.becomes.trans kept),
      (h.2.addDependencies assets _ _).settle grows hentry document⟩

/-- One operation: every entry becomes what it may, and the registry stays well-formed. -/
theorem WellFormed.run {registry : Registry} (h : registry.WellFormed) (assets : Assets)
    (store : Store) (operation : Operation) :
    registry.Becomes ((operation.run assets).after ⟨store, registry⟩).registry ∧
      ((operation.run assets).after ⟨store, registry⟩).registry.WellFormed := by
  refine ((invariant_becomes assets registry).keeps_run operation ?_ ⟨store, registry⟩ ?_).2
  · rintro entry sound - current ⟨becomes, wellFormed⟩
    exact ⟨becomes.trans (grows_register current entry).becomes, wellFormed.register sound⟩
  · exact ⟨trivial, .refl registry, h⟩

theorem Reachable.wellFormed {registry : Registry} (h : Reachable registry) :
    registry.WellFormed := by
  induction h with
  | empty => exact wellFormed_empty
  | run _ assets store operation ih => exact (ih.run assets store operation).2

/-- Whatever is done with a reachable registry, with success or without, its entries become what
    they may, and the entries stand under their own ids, the resolved ones with their documents. -/
theorem Reachable.becomes_run {registry : Registry} (h : Reachable registry) (assets : Assets)
    (store : Store) (operation : Operation) :
    registry.Becomes ((operation.run assets).after ⟨store, registry⟩).registry ∧
      ((operation.run assets).after ⟨store, registry⟩).registry.WellFormed :=
  h.wellFormed.run assets store operation

/-- An entry without a version, in whose place a versioned one is registered. -/
theorem becomes_run_versioned :
    let unversioned := Operation.register (.pending .redfish "Power" none)
      (Entry.sound_pending _ _ _)
    let versioned := Operation.register (.pending .redfish "Power" (some ⟨"v1_7_6", 1, 7, 6⟩))
      (Entry.sound_pending _ _ _)
    let first := ((unversioned.run ⟨⟨[], []⟩, {}⟩).after .start).registry
    let second := ((versioned.run ⟨⟨[], []⟩, {}⟩).after ⟨.empty, first⟩).registry
    Reachable first ∧ (first.get? "Power").map Entry.version = some none ∧
      (second.get? "Power").map Entry.stem = some "Power.v1_7_6" ∧
      first.Becomes second ∧ second.WellFormed := by
  intro unversioned versioned first second
  have reachable : Reachable first := .run .empty ⟨⟨[], []⟩, {}⟩ .empty unversioned
  exact ⟨reachable, rfl, rfl, Reachable.becomes_run reachable ⟨⟨[], []⟩, {}⟩ .empty versioned⟩

end Registry

end ResourceModel

import Mathlib.Logic.Relation
import ResourceModel.Proofs.Registry.Growth

set_option autoImplicit false

/-! # Schemas do not interfere

What is registered names one schema id at most. It reads no entry but that of this id, and leaves all
others as they are. So what becomes of an id is decided by the registrations that name it, in their
order, and registrations that name different ids can be done in any order. -/

namespace ResourceModel

/-- What can be registered: an entry, or the schema that a reference mentions. -/
inductive Registration where
  | entry (entry : Entry)
  | reference (uri : String)

namespace Registration

/-- The schema id that a registration names; none for a reference that mentions no schema. -/
def id? : Registration → Option String
  | .entry given => some given.id
  | .reference uri => (Mention.ofUri? uri).map Mention.id

/-- The registrations that name a schema id, in their order. -/
def naming (id : String) (registrations : List Registration) : List Registration :=
  registrations.filter fun registration => registration.id? = some id

/-- Whether no id is named by both of two registrations. -/
def Apart (first second : Registration) : Prop :=
  ∀ id, first.id? = some id → second.id? ≠ some id

/-- Whether the same is registered in another order, in which two neighbours that are apart have
    changed places. -/
inductive Swaps : List Registration → List Registration → Prop where
  | intro (front : List Registration) (first second : Registration) (rest : List Registration)
      (apart : first.Apart second) :
      Swaps (front ++ first :: second :: rest) (front ++ second :: first :: rest)

/-- Whether the same is registered in an order that comes about by swapping neighbours that are
    apart, any number of times. -/
def Reorders : List Registration → List Registration → Prop :=
  Relation.ReflTransGen Swaps

theorem Swaps.naming_eq {registrations others : List Registration} (h : Swaps registrations others)
    (id : String) : naming id registrations = naming id others := by
  cases h with
  | intro front first second rest apart =>
    simp only [naming, List.filter_append, List.filter_cons, decide_eq_true_eq]
    by_cases hfirst : first.id? = some id
    · simp [hfirst, apart id hfirst]
    · simp [hfirst]

theorem Reorders.naming_eq {registrations others : List Registration}
    (h : Reorders registrations others) (id : String) :
    naming id registrations = naming id others := by
  induction h with
  | refl => rfl
  | tail _ swaps ih => exact ih.trans (swaps.naming_eq id)

end Registration

namespace Registry

variable {assets : Assets} {registry other : Registry} {id : String}

/-! ## One registration -/

/-- The registry after a registration. -/
def enter (assets : Assets) (registry : Registry) : Registration → Registry
  | .entry entry => registry.register entry
  | .reference uri => registry.registerReference assets uri

theorem get?_register_of_ne (registry : Registry) {entry : Entry} (h : id ≠ entry.id) :
    (registry.register entry).get? id = registry.get? id := by
  rw [get?_register, if_neg fun named => h named.1]

/-- What an entry is replaced by depends on no other entry. -/
theorem get?_register_congr (same : registry.get? id = other.get? id) (entry : Entry) :
    (registry.register entry).get? id = (other.register entry).get? id := by
  by_cases hid : id = entry.id
  · subst hid
    have haccepts : registry.accepts entry = other.accepts entry := by
      rw [accepts, accepts, same]
    rw [get?_register, get?_register, haccepts, same]
  · rw [get?_register_of_ne _ hid, get?_register_of_ne _ hid, same]

theorem get?_registerMention_of_ne (registry : Registry) {mentioned : Mention}
    (h : id ≠ mentioned.id) :
    (registry.registerMention assets mentioned).get? id = registry.get? id := by
  unfold registerMention
  split
  · rfl
  · exact get?_register_of_ne registry (by rwa [entryOf_id])

theorem get?_registerMention_congr (same : registry.get? id = other.get? id)
    (mentioned : Mention) :
    (registry.registerMention assets mentioned).get? id =
      (other.registerMention assets mentioned).get? id := by
  by_cases hid : id = mentioned.id
  · subst hid
    have hversioned : registry.isVersioned mentioned.id = other.isVersioned mentioned.id := by
      rw [isVersioned, isVersioned, same]
    unfold registerMention
    rw [hversioned]
    split
    · exact same
    · exact get?_register_congr same _
  · rw [get?_registerMention_of_ne _ hid, get?_registerMention_of_ne _ hid, same]

/-- A registration leaves every entry that it does not name. -/
theorem get?_enter_of_ne (registry : Registry) {registration : Registration}
    (h : registration.id? ≠ some id) :
    (registry.enter assets registration).get? id = registry.get? id := by
  cases registration with
  | entry entry => exact get?_register_of_ne registry fun heq => h (by rw [Registration.id?, heq])
  | reference uri =>
    simp only [enter, registerReference]
    split
    · next mentioned hmentioned =>
      refine get?_registerMention_of_ne registry fun heq => h ?_
      rw [Registration.id?, hmentioned, Option.map_some, heq]
    · rfl

/-- What becomes of an entry does not depend on any other entry. -/
theorem get?_enter_congr (same : registry.get? id = other.get? id) (registration : Registration) :
    (registry.enter assets registration).get? id = (other.enter assets registration).get? id := by
  cases registration with
  | entry entry => exact get?_register_congr same entry
  | reference uri =>
    simp only [enter, registerReference]
    split
    · exact get?_registerMention_congr same _
    · exact same

theorem sorted_register (h : Table.Sorted registry.entries) (entry : Entry) :
    Table.Sorted (registry.register entry).entries := by
  rw [entries_register]
  split
  · exact h.put _ _
  · exact h

theorem sorted_enter (h : Table.Sorted registry.entries) (registration : Registration) :
    Table.Sorted (registry.enter assets registration).entries := by
  cases registration with
  | entry entry => exact sorted_register h entry
  | reference uri =>
    simp only [enter, registerReference]
    split
    · unfold registerMention
      split
      · exact h
      · exact sorted_register h _
    · exact h

/-! ## Any number of registrations -/

/-- The registry after registrations, one after the other. -/
def enterAll (assets : Assets) (registry : Registry) (registrations : List Registration) :
    Registry :=
  registrations.foldl (enter assets) registry

/-- The registrations that do not name an id can be left out, if only its entry counts. -/
theorem get?_enterAll_naming (same : registry.get? id = other.get? id)
    (registrations : List Registration) :
    (registry.enterAll assets registrations).get? id =
      (other.enterAll assets (Registration.naming id registrations)).get? id := by
  induction registrations generalizing registry other with
  | nil => exact same
  | cons registration rest ih =>
    by_cases hnames : registration.id? = some id
    · rw [Registration.naming, List.filter_cons_of_pos (by simpa using hnames)]
      exact ih (get?_enter_congr same registration)
    · rw [Registration.naming, List.filter_cons_of_neg (by simpa using hnames)]
      exact ih ((get?_enter_of_ne registry hnames).trans same)

theorem sorted_enterAll (h : Table.Sorted registry.entries) (registrations : List Registration) :
    Table.Sorted (registry.enterAll assets registrations).entries := by
  induction registrations generalizing registry with
  | nil => exact h
  | cons registration rest ih => exact ih (sorted_enter h registration)

theorem entries_enterAll_of_naming (h : Table.Sorted registry.entries)
    {registrations others : List Registration}
    (same : ∀ id, Registration.naming id registrations = Registration.naming id others) :
    (registry.enterAll assets registrations).entries =
      (registry.enterAll assets others).entries := by
  refine Table.Sorted.ext (sorted_enterAll h registrations) (sorted_enterAll h others) fun id => ?_
  calc (registry.enterAll assets registrations).get? id
    _ = (registry.enterAll assets (Registration.naming id registrations)).get? id :=
        get?_enterAll_naming rfl registrations
    _ = (registry.enterAll assets (Registration.naming id others)).get? id := by rw [same id]
    _ = (registry.enterAll assets others).get? id := (get?_enterAll_naming rfl others).symm

/-- Schemas do not interfere: after any registrations the entry of an id is the one after those that
    name it. So registrations lead to the same entries as others if each id is named by the same ones
    in the same order, and as the same in another order in which neighbours that name different ids
    have changed places. -/
theorem enterAll_by_id (assets : Assets) {registry : Registry}
    (sorted : Table.Sorted registry.entries) :
    (∀ registrations id, (registry.enterAll assets registrations).get? id =
      (registry.enterAll assets (Registration.naming id registrations)).get? id) ∧
    (∀ registrations others,
      (∀ id, Registration.naming id registrations = Registration.naming id others) →
      (registry.enterAll assets registrations).entries =
        (registry.enterAll assets others).entries) ∧
    (∀ registrations others, Registration.Reorders registrations others →
      (registry.enterAll assets registrations).entries =
        (registry.enterAll assets others).entries) := by
  refine ⟨fun registrations id => ?_, fun registrations others same => ?_,
    fun registrations others reorders => ?_⟩
  · exact get?_enterAll_naming rfl registrations
  · exact entries_enterAll_of_naming sorted same
  · exact entries_enterAll_of_naming sorted reorders.naming_eq

/-- An unversioned schema, a reference to it in a version, and one to another schema. -/
theorem enterAll_by_id_interleaved :
    let registry := empty.register (.pending .redfish "X" none)
    let first := Registration.reference "X.v1_1_0.json"
    let second := Registration.reference "Y.json"
    let third := Registration.reference "X.v1_0_0.json"
    let assets : Assets := ⟨⟨[], []⟩, {}⟩
    Table.Sorted registry.entries ∧
      Registration.Reorders [first, second, third] [second, first, third] ∧
      (registry.enterAll assets [first, second, third]).entries =
        (registry.enterAll assets [second, first, third]).entries ∧
      (registry.enterAll assets [first, second, third]).get? "X" =
        (registry.enterAll assets [first, third]).get? "X" ∧
      ((registry.enterAll assets [first, third]).get? "X").map Entry.stem = some "X.v1_1_0" := by
  intro registry first second third assets
  have sorted : Table.Sorted registry.entries := sorted_register .nil _
  have hfirst : first.id? = some "X" := by decide +kernel
  have hsecond : second.id? = some "Y" := by decide +kernel
  have hthird : third.id? = some "X" := by decide +kernel
  have apart : first.Apart second := by
    intro id hid
    rw [hfirst] at hid
    rw [hsecond, ← hid]
    decide
  have reorders : Registration.Reorders [first, second, third] [second, first, third] :=
    .single (.intro [] first second [third] apart)
  obtain ⟨byId, -, byOrder⟩ := enterAll_by_id assets sorted
  have named : Registration.naming "X" [first, second, third] = [first, third] := by
    simp [Registration.naming, hfirst, hsecond, hthird]
  refine ⟨sorted, reorders, byOrder _ _ reorders, ?_, by decide +kernel⟩
  rw [byId, named]

end Registry

end ResourceModel

import ResourceModel.Json.Parser
import ResourceModel.Pointer
import ResourceModel.Proofs.Table

set_option autoImplicit false

/-! # Values with ordered rows

A value that was read has the rows of every object in the order of their keys, and so one row for each
key. This is what makes a row and what is found under its key the same thing. It passes to every part
of a value. -/

namespace ResourceModel.Json

/-- Whether every object in a value has its rows in the order of their keys. -/
inductive Ordered : Json → Prop where
  | null : Ordered null
  | bool (value : Bool) : Ordered (bool value)
  | number (value : Number) : Ordered (number value)
  | string (value : String) : Ordered (string value)
  | array {items : List Json} (each : ∀ item ∈ items, Ordered item) : Ordered (array items)
  | object {rows : Table Json} (sorted : Table.Sorted rows) (each : ∀ row ∈ rows, Ordered row.2) :
      Ordered (object rows)

theorem ordered_array_iff {items : List Json} :
    (array items).Ordered ↔ ∀ item ∈ items, item.Ordered := by
  constructor
  · intro h
    cases h with
    | array each => exact each
  · exact .array

theorem ordered_object_iff {rows : Table Json} :
    (object rows).Ordered ↔ Table.Sorted rows ∧ ∀ row ∈ rows, row.2.Ordered := by
  constructor
  · intro h
    cases h with
    | object sorted each => exact ⟨sorted, each⟩
  · exact fun h => .object h.1 h.2

namespace Ordered

variable {value found : Json}

/-! ## Parts -/

theorem of_get? (h : value.Ordered) {key : String} (hget : value.get? key = some found) :
    found.Ordered := by
  cases value with
  | object rows => exact (ordered_object_iff.1 h).2 (key, found) (Table.mem_of_get? hget)
  | null | bool | number | string | array => cases hget

theorem of_strict? (h : value.Ordered) {pointer : List String}
    (hstrict : Pointer.strict? value pointer = some found) : found.Ordered := by
  induction pointer generalizing value with
  | nil => exact Option.some.inj hstrict ▸ h
  | cons segment rest ih =>
    simp only [Pointer.strict?] at hstrict
    split at hstrict
    · next further hstep => exact ih (h.of_get? hstep) hstrict
    · cases hstrict

theorem of_mem_items? (h : value.Ordered) {key : String} {items : List Json} {item : Json}
    (hitems : value.items? key = some items) (hitem : item ∈ items) : item.Ordered := by
  obtain ⟨list, hget, harray⟩ := Option.bind_eq_some_iff.1 hitems
  cases list with
  | array found =>
    cases harray
    exact ordered_array_iff.1 (h.of_get? hget) item hitem
  | null | bool | number | string | object => cases harray

end Ordered

/-! ## Reading -/

/-- What is read with some fuel has ordered rows. -/
structure ReadsOrdered (fuel : Nat) : Prop where
  value : ∀ {depth text value rest}, readValue fuel depth text = some (value, rest) → value.Ordered
  items : ∀ {depth text items rest}, readItems fuel depth text = some (items, rest) →
    ∀ item ∈ items, item.Ordered
  rows : ∀ {depth text rows rest}, readRows fuel depth text = some (rows, rest) →
    ∀ row ∈ rows, row.2.Ordered

theorem ordered_of_readValue {fuel depth : Nat} {text rest : List Char} {value : Json}
    (reads : ReadsOrdered fuel) (h : readValue (fuel + 1) depth text = some (value, rest)) :
    value.Ordered := by
  unfold readValue at h
  split at h
  · cases h
    exact .null
  · cases h
    exact .bool true
  · cases h
    exact .bool false
  · obtain ⟨_, _, heq⟩ := Option.map_eq_some_iff.1 h
    cases heq
    exact .string _
  · split at h
    · split at h
      · cases h
        exact .array (by simp)
      · obtain ⟨read, hread, heq⟩ := Option.map_eq_some_iff.1 h
        cases heq
        exact .array (reads.items hread)
    · cases h
  · split at h
    · split at h
      · cases h
        exact .object .nil (by simp)
      · obtain ⟨read, hread, heq⟩ := Option.map_eq_some_iff.1 h
        cases heq
        exact .object (Table.sorted_ofRows read.1) fun row hrow =>
          reads.rows hread row (Table.mem_ofRows hrow)
    · cases h
  · obtain ⟨_, _, heq⟩ := Option.map_eq_some_iff.1 h
    cases heq
    exact .number _

theorem ordered_of_readItems {fuel depth : Nat} {text rest : List Char} {items : List Json}
    (reads : ReadsOrdered fuel) (h : readItems (fuel + 1) depth text = some (items, rest)) :
    ∀ item ∈ items, item.Ordered := by
  unfold readItems at h
  split at h
  · cases h
  · next first _ hfirst =>
    have ordered := reads.value hfirst
    split at h
    · cases h
      exact List.forall_mem_singleton.2 ordered
    · obtain ⟨read, hread, heq⟩ := Option.map_eq_some_iff.1 h
      cases heq
      exact List.forall_mem_cons.2 ⟨ordered, reads.items hread⟩
    · cases h

theorem ordered_of_readRows {fuel depth : Nat} {text rest : List Char} {rows : List (String × Json)}
    (reads : ReadsOrdered fuel) (h : readRows (fuel + 1) depth text = some (rows, rest)) :
    ∀ row ∈ rows, row.2.Ordered := by
  unfold readRows at h
  split at h
  · split at h
    · cases h
    · split at h
      · split at h
        · cases h
        · next value _ hvalue =>
          have ordered := reads.value hvalue
          split at h
          · cases h
            exact List.forall_mem_singleton.2 ordered
          · obtain ⟨read, hread, heq⟩ := Option.map_eq_some_iff.1 h
            cases heq
            exact List.forall_mem_cons.2 ⟨ordered, reads.rows hread⟩
          · cases h
      · cases h
  · cases h

theorem readsOrdered (fuel : Nat) : ReadsOrdered fuel := by
  induction fuel with
  | zero => constructor <;> simp [readValue, readItems, readRows]
  | succ fuel ih =>
    exact ⟨ordered_of_readValue ih, ordered_of_readItems ih, ordered_of_readRows ih⟩

/-- A value that is read from a text has the rows of its objects in order. -/
theorem ordered_of_parse {text : String} {value : Json} (h : parse text = some value) :
    value.Ordered := by
  unfold parse at h
  simp only at h
  split at h
  · next read rest hread =>
    split at h
    · exact Option.some.inj h ▸ (readsOrdered _).value hread
    · cases h
  · cases h

end ResourceModel.Json

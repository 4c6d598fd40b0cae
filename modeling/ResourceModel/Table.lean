set_option autoImplicit false

/-! # Tables

Rows with text keys in ascending order, one row for each key. Everything that is listed in the
order of its names (schema ids, object keys, recorded defaults) is kept in such a table. -/

namespace ResourceModel

universe u v

/-- Rows in ascending order of their keys, one row for each key. -/
abbrev Table (α : Type u) := List (String × α)

namespace Table

variable {α : Type u} {β : Type v}

/-- The value in the row of `key`. -/
def get? : Table α → String → Option α
  | [], _ => none
  | (k, value) :: rest, key => if k = key then some value else get? rest key

/-- Whether there is a row of `key`. -/
def has (table : Table α) (key : String) : Bool :=
  (get? table key).isSome

/-- The table with `value` in the row of `key`, which is added at its place if there is none. -/
def put : Table α → String → α → Table α
  | [], key, value => [(key, value)]
  | (k, old) :: rest, key, value =>
    if k = key then (key, value) :: rest
    else if key < k then (key, value) :: (k, old) :: rest
    else (k, old) :: put rest key value

/-- The table of the given rows; of two rows of one key the later one counts. -/
def ofRows (rows : List (String × α)) : Table α :=
  rows.foldl (fun table row => put table row.1 row.2) []

/-- The keys, in ascending order. -/
def keys (table : Table α) : List String :=
  table.map (·.1)

/-- The values, in the order of their keys. -/
def values (table : Table α) : List α :=
  table.map (·.2)

/-! ## Rows after a change -/

@[simp]
theorem get?_nil (key : String) : get? ([] : Table α) key = none := rfl

@[simp]
theorem get?_put_self (table : Table α) (key : String) (value : α) :
    get? (put table key value) key = some value := by
  induction table with
  | nil => simp [put, get?]
  | cons row rest ih =>
    obtain ⟨k, old⟩ := row
    unfold put
    split
    · simp [get?]
    · split
      · simp [get?]
      · rename_i hk _
        simp [get?, hk, ih]

theorem get?_put_of_ne (table : Table α) {key other : String} (value : α) (h : other ≠ key) :
    get? (put table key value) other = get? table other := by
  induction table with
  | nil => simp [put, get?, Ne.symm h]
  | cons row rest ih =>
    obtain ⟨k, old⟩ := row
    unfold put
    split
    · rename_i hk
      subst hk
      simp [get?, Ne.symm h]
    · split
      · simp [get?, Ne.symm h]
      · simp [get?, ih]

end Table

end ResourceModel

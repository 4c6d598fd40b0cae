import ResourceModel.Table

set_option autoImplicit false

/-! # Rows of a table

A table whose rows ascend has one row for each key, so looking a key up and being a row are the same
thing. Putting a row in keeps the rows ascending. -/

namespace ResourceModel.Table

universe u

variable {α : Type u}

/-! ## Looking up -/

theorem get?_put (table : Table α) (key other : String) (value : α) :
    get? (put table key value) other = if other = key then some value else get? table other := by
  by_cases h : other = key
  · subst h
    simp
  · rw [get?_put_of_ne table value h, if_neg h]

theorem mem_of_get? {table : Table α} {key : String} {value : α}
    (h : get? table key = some value) : (key, value) ∈ table := by
  induction table with
  | nil => simp at h
  | cons row rest ih =>
    obtain ⟨k, old⟩ := row
    simp only [get?] at h
    split at h
    · next hk =>
      subst hk
      cases h
      exact List.mem_cons_self
    · exact List.mem_cons_of_mem _ (ih h)

theorem get?_eq_none {rows : List (String × α)} {key : String} (h : key ∉ rows.map Prod.fst) :
    get? rows key = none := by
  induction rows with
  | nil => rfl
  | cons row rest ih =>
    simp only [List.map_cons, List.mem_cons, not_or] at h
    simp only [get?, if_neg (Ne.symm h.1), ih h.2]

/-- The table of rows with keys of their own holds just these rows. -/
theorem get?_ofRows {rows : List (String × α)} (nodup : (rows.map Prod.fst).Nodup)
    (key : String) : get? (ofRows rows) key = get? rows key := by
  have after : ∀ table : Table α,
      get? (rows.foldl (fun table row => put table row.1 row.2) table) key =
        (get? rows key).or (get? table key) := by
    induction rows with
    | nil => intro table; rfl
    | cons row rest ih =>
      obtain ⟨hrow, hrest⟩ := List.nodup_cons.1 nodup
      intro table
      rw [List.foldl_cons, ih hrest, get?_put]
      by_cases hkey : key = row.1
      · subst hkey
        simp [get?, get?_eq_none hrow]
      · simp [get?, hkey, Ne.symm hkey]
  exact (after []).trans (Option.or_none)

theorem mem_put {table : Table α} {key : String} {value : α} {row : String × α}
    (h : row ∈ put table key value) : row = (key, value) ∨ row ∈ table := by
  induction table with
  | nil => exact Or.inl (List.mem_singleton.1 h)
  | cons first rest ih =>
    obtain ⟨k, old⟩ := first
    unfold put at h
    split at h
    · exact (List.mem_cons.1 h).imp id (List.mem_cons_of_mem _)
    · split at h
      · exact List.mem_cons.1 h
      · rcases List.mem_cons.1 h with rfl | hrest
        · exact Or.inr List.mem_cons_self
        · exact (ih hrest).imp id (List.mem_cons_of_mem _)

/-! ## Ascending rows -/

/-- Whether the rows are in ascending order of their keys, with one row for each key. -/
def Sorted (table : Table α) : Prop :=
  table.Pairwise fun a b => a.1 < b.1

instance decidableSorted (table : Table α) : Decidable (Sorted table) :=
  inferInstanceAs (Decidable (table.Pairwise fun a b => a.1 < b.1))

theorem Sorted.nil : Sorted ([] : Table α) :=
  List.Pairwise.nil

theorem sorted_of_keys {table : Table α} (h : (keys table).Pairwise (· < ·)) : Sorted table :=
  List.pairwise_map.1 h

theorem Sorted.put {table : Table α} (h : Sorted table) (key : String) (value : α) :
    Sorted (put table key value) := by
  induction table with
  | nil => exact List.pairwise_singleton _ _
  | cons first rest ih =>
    obtain ⟨k, old⟩ := first
    obtain ⟨hfirst, hrest⟩ := List.pairwise_cons.1 h
    unfold Table.put
    split
    · next hk =>
      subst hk
      exact List.pairwise_cons.2 ⟨hfirst, hrest⟩
    · next hne =>
      split
      · next hlt =>
        refine List.pairwise_cons.2 ⟨fun row hrow => ?_, h⟩
        rcases List.mem_cons.1 hrow with rfl | hrow
        · exact hlt
        · exact String.lt_trans hlt (hfirst row hrow)
      · next hnlt =>
        have hlt : k < key := Std.lt_of_le_of_ne (String.not_lt.1 hnlt) hne
        refine List.pairwise_cons.2 ⟨fun row hrow => ?_, ih hrest⟩
        rcases mem_put hrow with rfl | hrow
        · exact hlt
        · exact hfirst row hrow

theorem put_of_forall_lt {table : Table α} {key : String} (h : ∀ row ∈ table, row.1 < key)
    (value : α) : put table key value = table ++ [(key, value)] := by
  induction table with
  | nil => rfl
  | cons first rest ih =>
    obtain ⟨k, old⟩ := first
    obtain ⟨hfirst, hrest⟩ := List.forall_mem_cons.1 h
    have hne : k ≠ key := fun heq => String.lt_irrefl key (heq ▸ hfirst)
    have hnlt : ¬ key < k := fun hlt => String.lt_irrefl key (String.lt_trans hlt hfirst)
    rw [put, if_neg hne, if_neg hnlt, ih hrest, List.cons_append]

theorem Sorted.ofRows_eq {rows : List (String × α)} (h : Sorted rows) : ofRows rows = rows := by
  -- the rows that are in the table already come before the ones that are still to be put
  have after (table : Table α) (hall : Sorted (table ++ rows)) :
      rows.foldl (fun table row => Table.put table row.1 row.2) table = table ++ rows := by
    clear h
    induction rows generalizing table with
    | nil => simp
    | cons row rest ih =>
      obtain ⟨-, -, hbefore⟩ := List.pairwise_append.1 hall
      have hput : Table.put table row.1 row.2 = table ++ [row] :=
        put_of_forall_lt (fun first hfirst => hbefore first hfirst row List.mem_cons_self) row.2
      rw [List.append_cons] at hall
      rw [List.foldl_cons, hput, ih _ hall, ← List.append_cons]
  exact after [] h

/-- The table of rows is made of these rows, one for each key. -/
theorem mem_ofRows {rows : List (String × α)} {row : String × α} (h : row ∈ ofRows rows) :
    row ∈ rows := by
  have after : ∀ table : Table α,
      row ∈ rows.foldl (fun table row => Table.put table row.1 row.2) table →
        row ∈ table ∨ row ∈ rows := by
    clear h
    induction rows with
    | nil => exact fun _ hrow => Or.inl hrow
    | cons first rest ih =>
      intro table hrow
      rcases ih _ hrow with hput | hrest
      · exact (mem_put hput).elim (fun heq => Or.inr (heq ▸ List.mem_cons_self)) Or.inl
      · exact Or.inr (List.mem_cons_of_mem _ hrest)
  exact (after [] h).resolve_left List.not_mem_nil

theorem sorted_ofRows (rows : List (String × α)) : Sorted (ofRows rows) := by
  have after : ∀ table : Table α, Sorted table →
      Sorted (rows.foldl (fun table row => Table.put table row.1 row.2) table) := by
    induction rows with
    | nil => exact fun _ h => h
    | cons row rest ih => exact fun table h => ih _ (h.put row.1 row.2)
  exact after [] .nil

theorem Sorted.get?_of_mem {table : Table α} (h : Sorted table) {key : String} {value : α}
    (hmem : (key, value) ∈ table) : get? table key = some value := by
  induction table with
  | nil => simp at hmem
  | cons first rest ih =>
    obtain ⟨k, old⟩ := first
    obtain ⟨hfirst, hrest⟩ := List.pairwise_cons.1 h
    rcases List.mem_cons.1 hmem with heq | hmem
    · cases heq
      simp [get?]
    · have hne : k ≠ key := by
        intro heq
        have hlt := hfirst _ hmem
        rw [heq] at hlt
        exact String.lt_irrefl key hlt
      simp only [get?, if_neg hne]
      exact ih hrest hmem

theorem Sorted.nodup_keys {table : Table α} (h : Sorted table) : (keys table).Nodup := by
  refine List.pairwise_map.2 (h.imp fun {a b} hlt heq => ?_)
  rw [heq] at hlt
  exact String.lt_irrefl _ hlt

theorem Sorted.nodup {table : Table α} (h : Sorted table) : table.Nodup := by
  refine List.Pairwise.imp (fun {a b} hlt heq => ?_) h
  rw [heq] at hlt
  exact String.lt_irrefl _ hlt

/-- Two tables in which every key leads to the same value have the same rows. -/
theorem Sorted.ext {first second : Table α} (h : Sorted first) (h' : Sorted second)
    (same : ∀ key, get? first key = get? second key) : first = second := by
  have rows : ∀ row, row ∈ first ↔ row ∈ second := by
    rintro ⟨key, value⟩
    constructor
    · intro hrow
      exact mem_of_get? ((same key).symm.trans (h.get?_of_mem hrow))
    · intro hrow
      exact mem_of_get? ((same key).trans (h'.get?_of_mem hrow))
  have perm : first.Perm second := (List.perm_ext_iff_of_nodup h.nodup h'.nodup).2 rows
  refine perm.eq_of_pairwise (fun a b _ _ hlt hgt => ?_) h h'
  exact absurd (String.lt_trans hlt hgt) (String.lt_irrefl a.1)

end ResourceModel.Table

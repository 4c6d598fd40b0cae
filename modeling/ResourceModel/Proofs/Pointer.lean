import Mathlib.Data.List.Infix
import ResourceModel.Pointer

set_option autoImplicit false

/-! # Walks along pointers

A walk takes a pointer segment by segment, so it can be broken off anywhere and taken up again from
the value that was reached. A lenient walk is a strict walk along the segments that are there where
they are looked up. -/

namespace ResourceModel.Pointer

/-- The value to which a walk comes. At a missing segment a strict walk ends, and a lenient one goes
    on from where it is. -/
def walk? (strict : Bool) (value : Json) : List String → Option Json
  | [] => some value
  | segment :: rest =>
    match step? value segment with
    | some next => walk? strict next rest
    | none => if strict then none else walk? strict value rest

/-- The values in which a lenient walk looks up the segments, and the one at its end. -/
def reached (value : Json) (pointer : List String) : List Json :=
  pointer.inits.map (lenient value)

/-- Whether a segment is there in the value in which it is looked up. -/
def isThere (row : String × Json) : Bool :=
  row.2.has (keyIn row.2 row.1)

/-- The segments of a pointer that are there where a lenient walk looks them up. -/
def present (value : Json) (pointer : List String) : List String :=
  ((pointer.zip (reached value pointer)).filter isThere).map Prod.fst

/-! ## The two kinds of walks -/

theorem walk?_strict (value : Json) (pointer : List String) :
    walk? true value pointer = strict? value pointer := by
  induction pointer generalizing value with
  | nil => rfl
  | cons segment rest ih =>
    rw [walk?, strict?]
    cases step? value segment with
    | some next => exact ih next
    | none => rfl

theorem walk?_lenient (value : Json) (pointer : List String) :
    walk? false value pointer = some (lenient value pointer) := by
  induction pointer generalizing value with
  | nil => rfl
  | cons segment rest ih =>
    rw [walk?, lenient]
    cases step? value segment with
    | some next => exact ih next
    | none => exact ih value

theorem walk?_append (strict : Bool) (value : Json) (pointer further : List String) :
    walk? strict value (pointer ++ further) =
      (walk? strict value pointer).bind fun found => walk? strict found further := by
  induction pointer generalizing value with
  | nil => rfl
  | cons segment rest ih =>
    rw [List.cons_append, walk?, walk?]
    cases step? value segment with
    | some next => exact ih next
    | none =>
      cases strict with
      | true => rfl
      | false => exact ih value

/-! ## Segments that are there -/

theorem isThere_iff {value : Json} {segment : String} :
    isThere (segment, value) = true ↔ ∃ next, step? value segment = some next :=
  Option.isSome_iff_exists

/-- Behind the first segment the walk is that from the value one segment further. -/
theorem reached_cons (value : Json) (segment : String) (rest : List String) :
    reached value (segment :: rest) = value :: reached ((step? value segment).getD value) rest := by
  rw [reached, List.inits_cons, List.map_cons, List.map_map]
  rfl

theorem present_cons (value : Json) (segment : String) (rest : List String) :
    present value (segment :: rest) =
      (if isThere (segment, value) then [segment] else []) ++
        present ((step? value segment).getD value) rest := by
  unfold present
  rw [reached_cons, List.zip_cons_cons]
  by_cases h : isThere (segment, value) = true
  · rw [List.filter_cons_of_pos h, if_pos h]
    rfl
  · rw [List.filter_cons_of_neg h, if_neg h]
    rfl

theorem present_sublist (value : Json) (pointer : List String) :
    (present value pointer).Sublist pointer := by
  induction pointer generalizing value with
  | nil => exact .slnil
  | cons segment rest ih =>
    rw [present_cons]
    split
    · exact (ih _).cons_cons segment
    · exact (ih _).cons segment

theorem strict?_present (value : Json) (pointer : List String) :
    strict? value (present value pointer) = some (lenient value pointer) := by
  induction pointer generalizing value with
  | nil => rfl
  | cons segment rest ih =>
    rw [present_cons, lenient]
    by_cases h : isThere (segment, value) = true
    · obtain ⟨next, hnext⟩ := isThere_iff.1 h
      rw [if_pos h, List.singleton_append, strict?, hnext]
      exact ih next
    · have hnone : step? value segment = none :=
        Option.eq_none_iff_forall_ne_some.2 fun next hnext => h (isThere_iff.2 ⟨next, hnext⟩)
      rw [if_neg h, List.nil_append, hnone]
      exact ih value

/-- Walking along a pointer and then along a further one is one walk along both. A lenient walk
    always finds a value, the one that a strict walk finds if that finds any; and what it finds is
    what a strict walk finds along the segments that are there in the values that were reached. -/
theorem walk?_laws (value : Json) (pointer : List String) :
    (∀ strict further, walk? strict value (pointer ++ further) =
      (walk? strict value pointer).bind fun found => walk? strict found further) ∧
    walk? true value pointer = strict? value pointer ∧
    walk? false value pointer = some (lenient value pointer) ∧
    (∀ found, walk? true value pointer = some found → walk? false value pointer = some found) ∧
    (present value pointer).Sublist pointer ∧
    walk? true value (present value pointer) = walk? false value pointer := by
  refine ⟨fun strict further => walk?_append strict value pointer further,
    walk?_strict value pointer, walk?_lenient value pointer, fun found h => ?_,
    present_sublist value pointer, ?_⟩
  · rw [walk?_strict] at h
    rw [walk?_lenient, lenient_of_strict? h]
  · rw [walk?_strict, walk?_lenient, strict?_present]

/-- A missing segment is passed over, and what comes behind it is looked up in the same value. -/
example :
    let document := Json.object [("properties", .object [("A", .null)])]
    present document ["B", "definitions", "C", "A", "D"] = ["definitions", "A"] := by
  decide

end ResourceModel.Pointer

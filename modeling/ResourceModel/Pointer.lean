import ResourceModel.Json.Basic

set_option autoImplicit false

/-! # Walking into documents

A pointer is a list of keys. Some documents hold under `properties` what others hold under
`definitions`, so a missing `definitions` is looked up there. A strict walk ends at a missing key;
a lenient walk passes over it. -/

namespace ResourceModel.Pointer

/-- The key that a segment stands for in a value. -/
def keyIn (value : Json) (segment : String) : String :=
  if segment = "definitions" ∧ !value.has "definitions" then "properties" else segment

/-- The value one segment further. -/
def step? (value : Json) (segment : String) : Option Json :=
  value.get? (keyIn value segment)

/-- The value at the end of a pointer, if every segment is there. -/
def strict? (value : Json) : List String → Option Json
  | [] => some value
  | segment :: rest =>
    match step? value segment with
    | some next => strict? next rest
    | none => none

/-- The value reached by a pointer when segments that are not there are passed over. -/
def lenient (value : Json) : List String → Json
  | [] => value
  | segment :: rest => lenient ((step? value segment).getD value) rest

/-- Where every segment is there, nothing is passed over. -/
theorem lenient_of_strict? {value found : Json} {pointer : List String}
    (h : strict? value pointer = some found) : lenient value pointer = found := by
  induction pointer generalizing value with
  | nil => exact Option.some.inj h
  | cons segment rest ih =>
    simp only [strict?] at h
    split at h
    · next further hstep =>
      rw [lenient, hstep, Option.getD_some]
      exact ih h
    · simp at h

end ResourceModel.Pointer

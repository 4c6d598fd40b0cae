import ResourceModel.Declaration

set_option autoImplicit false

/-! # What is read of a declaration

A text that has to be there is read where the key has one. A list is read where the key is absent,
null or has a list; anything else under the key is an error. -/

namespace ResourceModel

theorem Json.string?_eq_some_iff {value : Json} {text : String} :
    value.string? = some text ↔ value = .string text := by
  cases value <;> simp [string?]

namespace Declaration

theorem requiredText_eq_ok {declaration : Json} {key subject text : String} :
    requiredText declaration key subject = .ok text ↔ declaration.text? key = some text := by
  unfold requiredText
  cases declaration.text? key <;> simp

/-- The entries that a declaration lists under a key: none where the key is absent or null. -/
def entries? (declaration : Json) (key : String) : Option (List Json) :=
  match declaration.get? key with
  | none => some []
  | some .null => some []
  | some (.array entries) => some entries
  | some _ => none

theorem optionalList_eq_ok {declaration : Json} {key subject : String} {entries : List Json} :
    optionalList declaration key subject = .ok entries ↔
      entries? declaration key = some entries := by
  unfold optionalList entries?
  cases declaration.get? key with
  | none => simp
  | some found => cases found <;> simp

end Declaration

end ResourceModel

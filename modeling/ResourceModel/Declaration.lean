import ResourceModel.Error

set_option autoImplicit false

/-! # Reading declarations

Access to the keys of a declared mapping. A subject says in errors what is being declared. -/

namespace ResourceModel.Declaration

/-- The text under a key that has to be there. -/
def requiredText (declaration : Json) (key subject : String) : Except Error String :=
  match declaration.text? key with
  | some text => .ok text
  | none => .error (.malformed subject (.missingKey key))

/-- The list under a key: empty where the key is absent or null. -/
def optionalList (declaration : Json) (key subject : String) : Except Error (List Json) :=
  match declaration.get? key with
  | none => .ok []
  | some .null => .ok []
  | some (.array items) => .ok items
  | some _ => .error (.malformed subject (.notList key))

/-- The text of a declared scalar. -/
def scalarText? : Json → Option String
  | .string text => some text
  | .number n => some n.text
  | .bool true => some "true"
  | .bool false => some "false"
  | _ => none

theorem sizeOf_optionalList_lt {declaration : Json} {key subject : String} {items : List Json}
    (h : optionalList declaration key subject = .ok items) :
    sizeOf items < sizeOf declaration ∨ items = [] := by
  unfold optionalList at h
  split at h
  · simp_all
  · simp_all
  · rename_i found hfound
    obtain rfl := Except.ok.inj h
    have := Json.sizeOf_get?_lt hfound
    simp at this
    omega
  · simp at h

end ResourceModel.Declaration

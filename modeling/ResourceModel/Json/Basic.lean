import ResourceModel.Decimal.Shortest
import ResourceModel.Table

set_option autoImplicit false

/-! # Structured values

The dynamic values that schema documents, declarations and emitted indexes are made of. The rows of
an object are kept as they are given; a value that was read has them in the order of their keys. -/

namespace ResourceModel

/-- The decimal text of a natural number. -/
def natText (n : Nat) : String :=
  String.ofList (Decimal.digitChars n)

/-- A number: an integer that fits into 64 bits, or a finite binary fraction. -/
inductive Number where
  | integer (value : Int)
  | float (value : Binary64)
  deriving DecidableEq, Repr

namespace Number

/-- The text of a number. -/
def text : Number → String
  | .integer (.ofNat n) => natText n
  | .integer (.negSucc n) => "-" ++ natText (n + 1)
  | .float x => x.text

/-- Whether the number is zero. -/
def isZero : Number → Bool
  | .integer n => n == 0
  | .float x => x.isZero

/-- Whether an integer fits into 64 bits: unsigned if it is not negative, signed otherwise. -/
def fits (n : Int) : Bool :=
  -(Nat.pow 2 63) ≤ n && n < Nat.pow 2 64

end Number

/-- A structured value. -/
inductive Json where
  | null
  | bool (value : Bool)
  | number (value : Number)
  | string (value : String)
  | array (items : List Json)
  | object (rows : List (String × Json))
  deriving Inhabited, Repr

namespace Json

/-- The value in the row of `key` of an object. -/
def get? : Json → String → Option Json
  | object rows, key => Table.get? rows key
  | _, _ => none

/-- Whether the value is an object with a row of `key`. -/
def has (value : Json) (key : String) : Bool :=
  (value.get? key).isSome

/-- The text of a string. -/
def string? : Json → Option String
  | string s => some s
  | _ => none

/-- The value of a truth value. -/
def bool? : Json → Option Bool
  | bool b => some b
  | _ => none

/-- The items of an array. -/
def array? : Json → Option (List Json)
  | array items => some items
  | _ => none

/-- The rows of an object. -/
def object? : Json → Option (Table Json)
  | object rows => some rows
  | _ => none

/-- Whether the value is null. -/
def isNull : Json → Bool
  | null => true
  | _ => false

/-- The text in the row of `key`. -/
def text? (value : Json) (key : String) : Option String :=
  (value.get? key).bind string?

/-- The items in the row of `key`. -/
def items? (value : Json) (key : String) : Option (List Json) :=
  (value.get? key).bind array?

/-- A text, or null where there is none. -/
def ofText? : Option String → Json
  | some s => string s
  | none => null

/-- The row of a key, if there is a value for it. -/
def optionalRow (key : String) : Option Json → List (String × Json)
  | some value => [(key, value)]
  | none => []

/-- A natural number as a value. -/
def ofNat (n : Nat) : Json :=
  number (.integer n)

/-- A list of texts. -/
def ofTexts (texts : List String) : Json :=
  array (texts.map string)

/-! ## A part is smaller -/

theorem sizeOf_get?_lt {value part : Json} {key : String} (h : value.get? key = some part) :
    sizeOf part < sizeOf value := by
  cases value with
  | object rows =>
    have step : ∀ table : List (String × Json), Table.get? table key = some part →
        sizeOf part < sizeOf table := by
      intro table
      induction table with
      | nil => simp
      | cons row rest ih =>
        obtain ⟨k, v⟩ := row
        simp only [Table.get?]
        split
        · intro hv
          obtain rfl := Option.some.inj hv
          simp
          omega
        · intro hv
          have := ih hv
          simp
          omega
    have := step rows h
    simp
    omega
  | _ => simp [get?] at h

end Json

end ResourceModel

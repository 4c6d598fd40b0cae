set_option autoImplicit false

/-! # Blank characters

The characters with the property White_Space, and the removal of such characters from both ends
of a text. -/

namespace ResourceModel.Text

/-- The code point ranges of the property White_Space. -/
def blankRanges : List (Nat × Nat) :=
  [(0x9, 0xD), (0x20, 0x20), (0x85, 0x85), (0xA0, 0xA0), (0x1680, 0x1680), (0x2000, 0x200A),
    (0x2028, 0x2029), (0x202F, 0x202F), (0x205F, 0x205F), (0x3000, 0x3000)]

/-- Whether a character has the property White_Space. -/
def isBlank (c : Char) : Bool :=
  blankRanges.any fun range => range.1 ≤ c.toNat && c.toNat ≤ range.2

/-- The text without leading characters of a class. -/
def dropLeading (blank : Char → Bool) (text : List Char) : List Char :=
  text.dropWhile blank

/-- The text without leading and trailing characters of a class. -/
def trimBy (blank : Char → Bool) (text : List Char) : List Char :=
  (dropLeading blank (dropLeading blank text).reverse).reverse

/-- The text without blanks at its ends. -/
def trim (text : List Char) : List Char :=
  trimBy isBlank text

end ResourceModel.Text

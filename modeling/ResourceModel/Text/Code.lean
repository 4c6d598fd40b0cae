set_option autoImplicit false

/-! # Code points

The characters that numbers stand for. The numbers of the halves of a pair of code units and those
beyond the last plane stand for none. -/

namespace ResourceModel.Text

/-- Whether a number is the code point of a character. -/
def isCode (code : Nat) : Bool :=
  code < 0xD800 || (0xDFFF < code && code < 0x110000)

/-- The character with a code point. -/
def ofCode? (code : Nat) : Option Char :=
  if isCode code then some (Char.ofNat code) else none

end ResourceModel.Text

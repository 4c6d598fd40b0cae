import ResourceModel.Decimal.Reading

set_option autoImplicit false

/-! # Percent-encoding

Bytes outside a set of plain characters are written as `%` and two hexadecimal digits. -/

namespace ResourceModel.Url

/-- A byte as `%` and two hexadecimal digits in upper case. -/
def percentByte (b : UInt8) : List Char :=
  ['%', (Nat.digitChar (b.toNat / 16)).toUpper, (Nat.digitChar (b.toNat % 16)).toUpper]

/-- A character that is written as it is, or the bytes of any other one. -/
def encodeChar (plain : Char → Bool) (c : Char) : List Char :=
  if plain c then [c] else (String.ofList [c]).toUTF8.toList.flatMap percentByte

/-- A text with every character outside a set encoded. What is encoded already stays so. -/
def encode (plain : Char → Bool) (text : List Char) : List Char :=
  text.flatMap (encodeChar plain)

/-- Whether a character is plain in a fragment. -/
def isFragmentPlain (c : Char) : Bool :=
  0x20 < c.toNat && c.toNat < 0x7F && c ≠ '"' && c ≠ '<' && c ≠ '>' && c.toNat ≠ 0x60

/-- Whether a character is plain in a path. -/
def isPathPlain (c : Char) : Bool :=
  isFragmentPlain c && c ≠ '#' && c ≠ '?' && c ≠ '{' && c ≠ '}'

/-- The bytes of a text with every `%` and two hexadecimal digits read as a byte. -/
def decodeBytes : List Char → List UInt8
  | '%' :: a :: b :: rest =>
    match Text.hexDigit? a, Text.hexDigit? b with
    | some high, some low => UInt8.ofNat (high * 16 + low) :: decodeBytes rest
    | _, _ => 0x25 :: decodeBytes (a :: b :: rest)
  | c :: rest => (String.ofList [c]).toUTF8.toList ++ decodeBytes rest
  | [] => []

end ResourceModel.Url

set_option autoImplicit false

/-! # Text in bytes

The characters that a sequence of bytes encodes, with a replacement character for every longest
run of bytes that begins a character and cannot be completed. -/

namespace ResourceModel.Text

/-- The range of the second byte after a first byte, and the number of bytes that follow the
    first one; none if no character begins with the byte. -/
def leadByte? (b : UInt8) : Option (UInt8 × UInt8 × Nat) :=
  if 0xC2 ≤ b && b ≤ 0xDF then some (0x80, 0xBF, 1)
  else if b == 0xE0 then some (0xA0, 0xBF, 2)
  else if b == 0xED then some (0x80, 0x9F, 2)
  else if 0xE1 ≤ b && b ≤ 0xEF then some (0x80, 0xBF, 2)
  else if b == 0xF0 then some (0x90, 0xBF, 3)
  else if 0xF1 ≤ b && b ≤ 0xF3 then some (0x80, 0xBF, 3)
  else if b == 0xF4 then some (0x80, 0x8F, 3)
  else none

/-- The bits of a character in its first byte. -/
def leadBits (b : UInt8) (following : Nat) : Nat :=
  b.toNat % Nat.pow 2 (6 - following)

/-- The character that stands for undecodable bytes. -/
def replacement : Char := Char.ofNat 0xFFFD

/-- A character that has begun: its bits so far, the number of bytes it still lacks, and the range
    of the next one. -/
structure Pending where
  bits : Nat
  lacking : Nat
  low : UInt8
  high : UInt8

mutual

/-- Reads bytes at the start of a character. -/
def decodeFrom : List UInt8 → List Char
  | [] => []
  | b :: rest =>
    if b < 0x80 then Char.ofNat b.toNat :: decodeFrom rest
    else match leadByte? b with
      | none => replacement :: decodeFrom rest
      | some (low, high, following) =>
        decodeWithin ⟨leadBits b following, following, low, high⟩ rest

/-- Reads bytes inside a character. -/
def decodeWithin (pending : Pending) : List UInt8 → List Char
  | [] => [replacement]
  | b :: rest =>
    if pending.low ≤ b && b ≤ pending.high then
      let bits := pending.bits * 64 + b.toNat % 64
      if pending.lacking ≤ 1 then Char.ofNat bits :: decodeFrom rest
      else decodeWithin ⟨bits, pending.lacking - 1, 0x80, 0xBF⟩ rest
    else if b < 0x80 then replacement :: Char.ofNat b.toNat :: decodeFrom rest
    else match leadByte? b with
      | none => replacement :: replacement :: decodeFrom rest
      | some (low, high, following) =>
        replacement :: decodeWithin ⟨leadBits b following, following, low, high⟩ rest

end

/-- The text of bytes, with replacement characters where they are not well-formed. -/
def decode (bytes : ByteArray) : String :=
  String.ofList (decodeFrom bytes.toList)

end ResourceModel.Text

import ResourceModel.Decimal.Binary64

set_option autoImplicit false

/-! # Reading numbers

The values of digits, natural numbers of a base, and decimal fractions with or without an
exponent. -/

namespace ResourceModel

/-- The value of a hexadecimal digit. -/
def Text.hexDigit? (c : Char) : Option Nat :=
  if c.isDigit then some (c.toNat - '0'.toNat)
  else if 'a' ≤ c ∧ c ≤ 'f' then some (c.toNat - 'a'.toNat + 10)
  else if 'A' ≤ c ∧ c ≤ 'F' then some (c.toNat - 'A'.toNat + 10)
  else none

namespace Decimal

/-- The number that digits of a base stand for; there has to be one. -/
def natural? (base : Nat) (digits : List Char) : Option Nat :=
  if digits.isEmpty then none
  else digits.foldlM (fun n c =>
    match Text.hexDigit? c with
    | some d => if d < base then some (n * base + d) else none
    | none => none) 0

/-- An integer that fits into 64 bits with its sign. -/
def fitting? (n : Int) : Option Int :=
  if -(Nat.pow 2 63) ≤ n ∧ n < Nat.pow 2 63 then some n else none

/-- The integer of 64 bits that digits of a base behind a sign stand for. -/
def integer? (base : Nat) (negative : Bool) (digits : List Char) : Option Int :=
  (natural? base digits).bind fun n => fitting? (if negative then -(n : Int) else n)

/-- The exponent at the end of a decimal fraction; zero if none is written. -/
def exponent? : List Char → Option Int
  | [] => some 0
  | c :: rest =>
    if c = 'e' ∨ c = 'E' then
      match rest with
      | '-' :: digits => (natural? 10 digits).map fun n => -(n : Int)
      | '+' :: digits => (natural? 10 digits).map fun n => (n : Int)
      | digits => (natural? 10 digits).map fun n => (n : Int)
    else none

/-- A decimal fraction that was read: its sign, its digits, and the power of ten they count. -/
structure Signed where
  negative : Bool
  digits : Nat
  exponent : Int

/-- The decimal fraction that a text without a leading plus sign spells. -/
def signed? (text : List Char) : Option Signed :=
  let (negative, text) := match text with
    | '-' :: rest => (true, rest)
    | text => (false, text)
  let whole := text.takeWhile Char.isDigit
  let rest := text.drop whole.length
  let (fraction, rest) := match rest with
    | '.' :: rest => (rest.takeWhile Char.isDigit, rest.dropWhile Char.isDigit)
    | rest => ([], rest)
  match natural? 10 (whole ++ fraction), exponent? rest with
  | some digits, some exponent => some ⟨negative, digits, exponent - fraction.length⟩
  | _, _ => none

/-- The finite number that a text without a leading plus sign spells as a decimal fraction. -/
def finite? (text : List Char) : Option Binary64 :=
  (signed? text).bind fun number =>
    Binary64.ofDecimal number.negative number.digits number.exponent

end Decimal

end ResourceModel

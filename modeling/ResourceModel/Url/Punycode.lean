import ResourceModel.Text.Code
import ResourceModel.Text.Split

set_option autoImplicit false

/-! # Punycode

Names with characters beyond ASCII, written in ASCII: the ASCII characters come first, and behind
the last hyphen numbers tell which characters are to be inserted where. -/

namespace ResourceModel.Url.Punycode

/-- The value of a digit of base 36: letters stand for the first ones, digits for the others. -/
def digit? (c : Char) : Option Nat :=
  if 'a' ≤ c ∧ c ≤ 'z' then some (c.toNat - 'a'.toNat)
  else if 'A' ≤ c ∧ c ≤ 'Z' then some (c.toNat - 'A'.toNat)
  else if c.isDigit then some (c.toNat - '0'.toNat + 26)
  else none

/-- The least digit at a place that is followed by further ones. -/
def threshold (place bias : Nat) : Nat :=
  if place ≤ bias then 1 else if bias + 26 ≤ place then 26 else place - bias

/-- The bias for a number after one that was large. The fuel bounds the divisions. -/
def settle : Nat → Nat → Nat → Nat
  | 0, _, place => place
  | fuel + 1, delta, place =>
    if 455 < delta then settle fuel (delta / 35) (place + 36)
    else place + 36 * delta / (delta + 38)

/-- The bias for the number after one, given how many characters there are by now. -/
def nextBias (delta count : Nat) (isFirst : Bool) : Nat :=
  let delta := if isFirst then delta / 700 else delta / 2
  settle 8 (delta + delta / count) 0

/-- Numbers and weights of places are below this bound. -/
def bound : Nat := Nat.pow 2 32

/-- Reads a number and adds it to `sum`. The least digit comes first and weighs `weight`. -/
def number? (bias : Nat) : Nat → Nat → Nat → List Char → Option (Nat × List Char)
  | _, _, _, [] => none
  | place, weight, sum, c :: rest =>
    match digit? c with
    | none => none
    | some digit =>
      let sum := sum + digit * weight
      let least := threshold place bias
      if bound ≤ sum then none
      else if digit < least then some (sum, rest)
      else if bound ≤ weight * (36 - least) then none
      else number? bias (place + 36) (weight * (36 - least)) sum rest

/-- Inserts characters as numbers tell. `code` is the code point of the last one and `place` the
    place behind it. The fuel is at least the length of the text. -/
def insert? : Nat → Nat → Nat → Nat → List Char → List Char → Option (List Char)
  | _, _, _, _, text, [] => some text
  | 0, _, _, _, _, _ => none
  | fuel + 1, bias, code, place, text, numbers =>
    match number? bias 36 1 place numbers with
    | none => none
    | some (sum, rest) =>
      let count := text.length + 1
      let code := code + sum / count
      let bias := nextBias (sum - place) count (place = 0)
      if Text.isCode code then
        let text := text.insertIdx (sum % count) (Char.ofNat code)
        insert? fuel bias code (sum % count + 1) text rest
      else none

/-- The texts before and behind the last hyphen; a text without one has nothing before. There is
    none if nothing stands before the only hyphen. -/
def halves? (text : List Char) : Option (List Char × List Char) :=
  match Text.cut? '-' text.reverse with
  | some (_, []) => none
  | some (after, before) => some (before.reverse, after.reverse)
  | none => some ([], text)

/-- The text that is written so. -/
def decode? (text : List Char) : Option (List Char) :=
  (halves? text).bind fun (plain, numbers) => insert? (numbers.length + 1) 72 128 0 plain numbers

end ResourceModel.Url.Punycode

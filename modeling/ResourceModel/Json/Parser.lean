import ResourceModel.Json.Basic

set_option autoImplicit false

/-! # Reading structured values

A strict reader: nothing but blanks, tabs and line ends may stand around tokens, every value is
read to its end, of two rows of one key the later one counts, and values nest at most 127 deep. -/

namespace ResourceModel.Json

/-! ## Numbers -/

/-- The digits of a number as they are read: the significand never exceeds 64 bits, and `exponent`
    is the power of ten it stands for. -/
structure Digits where
  significand : Nat
  exponent : Int

/-- Whether one more digit would exceed 64 bits. -/
def Digits.isFull (d : Digits) (digit : Nat) : Bool :=
  Nat.pow 2 64 ≤ d.significand * 10 + digit

/-- The value of a decimal digit. -/
def digit? (c : Char) : Option Nat :=
  if '0' ≤ c ∧ c ≤ '9' then some (c.toNat - '0'.toNat) else none

/-- Reads the digits before the point. From the first digit that does not fit every digit only
    raises the exponent. -/
def Digits.whole (d : Digits) (full : Bool) : List Char → Digits × List Char
  | [] => (d, [])
  | c :: rest =>
    match digit? c with
    | none => (d, c :: rest)
    | some digit =>
      if full || d.isFull digit then whole ⟨d.significand, d.exponent + 1⟩ true rest
      else whole ⟨d.significand * 10 + digit, d.exponent⟩ false rest

/-- Reads the digits behind the point. From the first digit that does not fit every digit is
    passed over. -/
def Digits.fraction (d : Digits) (full : Bool) : List Char → Digits × List Char
  | [] => (d, [])
  | c :: rest =>
    match digit? c with
    | none => (d, c :: rest)
    | some digit =>
      if full || d.isFull digit then fraction d true rest
      else fraction ⟨d.significand * 10 + digit, d.exponent - 1⟩ false rest

/-- Reads a run of decimal digits onto a number. -/
def naturalFrom (n : Nat) : List Char → Nat × List Char
  | [] => (n, [])
  | c :: rest =>
    match digit? c with
    | none => (n, c :: rest)
    | some digit => naturalFrom (n * 10 + digit) rest

/-- Whether the text begins with a decimal digit. -/
def startsWithDigit : List Char → Bool
  | c :: _ => (digit? c).isSome
  | [] => false

/-- The nearest number of 64 bits to an integer of at most 64 bits. -/
def significandFloat (n : Nat) : Binary64 :=
  (Binary64.ofNat? n).getD ⟨0⟩

/-- The number `10 ^ 308`, the greatest tabulated power of ten. -/
def greatestPower : Binary64 :=
  (Binary64.ofNat? (Nat.pow 10 308)).getD ⟨0⟩

/-- Scales a number by a power of ten, in steps of at most 308 places; each step rounds. None when
    the result is too great. -/
def scale : Nat → Binary64 → Int → Option Binary64
  | 0, x, _ => some x
  | bound + 1, x, exponent =>
    if exponent.natAbs ≤ 308 then
      let power := (Binary64.ofNat? (Nat.pow 10 exponent.natAbs)).getD ⟨0⟩
      if 0 ≤ exponent then x.times power else x.divided power
    else if x.isZero then some x
    -- a significand is at least one, so the result is too great
    else if 0 ≤ exponent then none
    else (x.divided greatestPower).bind fun y => scale bound y (exponent + 308)

/-- The fraction that digits stand for: the significand is rounded first and then scaled. -/
def Digits.float (d : Digits) (negative : Bool) : Option Number :=
  -- after five steps every significand of 64 bits has become zero
  (scale 8 (significandFloat d.significand) d.exponent).map fun x =>
    .float (Binary64.ofMagnitude negative x.magnitude)

/-- The greatest exponent that is computed with. -/
def exponentLimit : Nat := 2147483647

/-- The fraction with a written exponent. An exponent beyond the limit is an error where the value
    would grow, and zero where it would vanish. -/
def Digits.withExponent (d : Digits) (negative down : Bool) (exponent : Nat) : Option Number :=
  if exponentLimit < exponent then
    if d.significand ≠ 0 ∧ !down then none
    else some (.float (Binary64.ofMagnitude negative 0))
  else if down then Digits.float ⟨d.significand, d.exponent - exponent⟩ negative
  else Digits.float ⟨d.significand, d.exponent + exponent⟩ negative

/-- Reads an exponent behind its mark, if one is written. -/
def exponent? : List Char → Option (Option (Bool × Nat) × List Char)
  | [] => some (none, [])
  | c :: rest =>
    if c = 'e' ∨ c = 'E' then
      let (down, digits) := match rest with
        | '+' :: more => (false, more)
        | '-' :: more => (true, more)
        | more => (false, more)
      if startsWithDigit digits then
        let (n, rest) := naturalFrom 0 digits
        some (some (down, n), rest)
      else none
    else some (none, c :: rest)

/-- An integer that was read without fraction and exponent. Minus zero is a fraction, and so is an
    integer that does not fit. -/
def integer (negative : Bool) (d : Digits) : Option Number :=
  -- a digit that did not fit has raised the exponent
  if d.exponent = 0 then
    let value : Int := if negative then -d.significand else d.significand
    if Number.fits value ∧ ¬(negative ∧ d.significand = 0) then some (.integer value)
    else d.float negative
  else d.float negative

/-- Reads a number after its sign. -/
def unsigned? (negative : Bool) (text : List Char) : Option (Number × List Char) :=
  let leadingZero := match text with
    | '0' :: rest => startsWithDigit rest
    | _ => false
  if !startsWithDigit text || leadingZero then none
  else
    let (d, rest) := Digits.whole ⟨0, 0⟩ false text
    match rest with
    | '.' :: rest =>
      if startsWithDigit rest then
        let (d, rest) := d.fraction false rest
        match exponent? rest with
        | none => none
        | some (none, rest) => (d.float negative).map (·, rest)
        | some (some (down, n), rest) => (d.withExponent negative down n).map (·, rest)
      else none
    | _ =>
      match exponent? rest with
      | none => none
      | some (none, rest) => (integer negative d).map (·, rest)
      | some (some (down, n), rest) => (d.withExponent negative down n).map (·, rest)

/-- Reads a number. -/
def number? : List Char → Option (Number × List Char)
  | '-' :: rest => unsigned? true rest
  | text => unsigned? false text

/-! ## Texts -/

/-- The value of a hexadecimal digit of either case. -/
def hexValue? (c : Char) : Option Nat :=
  if '0' ≤ c ∧ c ≤ '9' then some (c.toNat - '0'.toNat)
  else if 'a' ≤ c ∧ c ≤ 'f' then some (c.toNat - 'a'.toNat + 10)
  else if 'A' ≤ c ∧ c ≤ 'F' then some (c.toNat - 'A'.toNat + 10)
  else none

/-- The number that four hexadecimal digits stand for. -/
def hexQuad? (a b c d : Char) : Option Nat := do
  return (((← hexValue? a) * 16 + (← hexValue? b)) * 16 + (← hexValue? c)) * 16 + (← hexValue? d)

/-- The character of a one-letter escape. -/
def escaped? : Char → Option Char
  | '"' => some '"'
  | '\\' => some '\\'
  | '/' => some '/'
  | 'b' => some (Char.ofNat 8)
  | 'f' => some (Char.ofNat 12)
  | 'n' => some '\n'
  | 'r' => some '\r'
  | 't' => some '\t'
  | _ => none

/-- Reads a text after its opening quote; `read` holds its characters so far, the last one first.
    Half of a pair of code units above the first plane is an error. -/
def quoted? (read : List Char) : List Char → Option (String × List Char)
  | '"' :: rest => some (String.ofList read.reverse, rest)
  | '\\' :: 'u' :: a :: b :: c :: d :: rest =>
    match hexQuad? a b c d with
    | none => none
    | some high =>
      if 0xDC00 ≤ high ∧ high < 0xE000 then none
      else if 0xD800 ≤ high ∧ high < 0xDC00 then
        match rest with
        | '\\' :: 'u' :: e :: f :: g :: h :: rest =>
          match hexQuad? e f g h with
          | none => none
          | some low =>
            if 0xDC00 ≤ low ∧ low < 0xE000 then
              let code := 0x10000 + (high - 0xD800) * 0x400 + (low - 0xDC00)
              quoted? (Char.ofNat code :: read) rest
            else none
        | _ => none
      else quoted? (Char.ofNat high :: read) rest
  | '\\' :: e :: rest =>
    match escaped? e with
    | some c => quoted? (c :: read) rest
    | none => none
  | c :: rest => if c.toNat < 32 ∨ c = '\\' then none else quoted? (c :: read) rest
  | [] => none

/-! ## Values -/

/-- Whether a character may stand between tokens. -/
def isGap (c : Char) : Bool :=
  c = ' ' || c = '\n' || c = '\t' || c = '\r'

/-- The text after the gap it begins with. -/
def skipGap (text : List Char) : List Char :=
  text.dropWhile isGap

/-- The greatest number of arrays and objects around a value. -/
def nestingLimit : Nat := 127

mutual

/-- Reads a value that stands inside `depth` arrays and objects. The fuel is at least the length
    of the text. -/
def readValue : Nat → Nat → List Char → Option (Json × List Char)
  | 0, _, _ => none
  | fuel + 1, depth, text =>
    match text with
    | 'n' :: 'u' :: 'l' :: 'l' :: rest => some (null, rest)
    | 't' :: 'r' :: 'u' :: 'e' :: rest => some (bool true, rest)
    | 'f' :: 'a' :: 'l' :: 's' :: 'e' :: rest => some (bool false, rest)
    | '"' :: rest => (quoted? [] rest).map fun read => (string read.1, read.2)
    | '[' :: rest =>
      if depth < nestingLimit then
        match skipGap rest with
        | ']' :: rest => some (array [], rest)
        | rest => (readItems fuel (depth + 1) rest).map fun read => (array read.1, read.2)
      else none
    | '{' :: rest =>
      if depth < nestingLimit then
        match skipGap rest with
        | '}' :: rest => some (object [], rest)
        | rest => (readRows fuel (depth + 1) rest).map fun read =>
            (object (Table.ofRows read.1), read.2)
      else none
    | text => (number? text).map fun read => (number read.1, read.2)

/-- Reads the items of an array, from the first one to the closing bracket. -/
def readItems : Nat → Nat → List Char → Option (List Json × List Char)
  | 0, _, _ => none
  | fuel + 1, depth, text =>
    match readValue fuel depth text with
    | none => none
    | some (item, rest) =>
      match skipGap rest with
      | ']' :: rest => some ([item], rest)
      | ',' :: rest =>
        (readItems fuel depth (skipGap rest)).map fun read => (item :: read.1, read.2)
      | _ => none

/-- Reads the rows of an object, from the first key to the closing brace. -/
def readRows : Nat → Nat → List Char → Option (List (String × Json) × List Char)
  | 0, _, _ => none
  | fuel + 1, depth, text =>
    match text with
    | '"' :: rest =>
      match quoted? [] rest with
      | none => none
      | some (key, rest) =>
        match skipGap rest with
        | ':' :: rest =>
          match readValue fuel depth (skipGap rest) with
          | none => none
          | some (value, rest) =>
            match skipGap rest with
            | '}' :: rest => some ([(key, value)], rest)
            | ',' :: rest =>
              (readRows fuel depth (skipGap rest)).map fun read => ((key, value) :: read.1, read.2)
            | _ => none
        | _ => none
    | _ => none

end

/-- Reads a text that holds one value and nothing else. -/
def parse (text : String) : Option Json :=
  let chars := text.toList
  match readValue (chars.length + 1) 0 (skipGap chars) with
  | some (value, rest) => if (skipGap rest).isEmpty then some value else none
  | none => none

end ResourceModel.Json

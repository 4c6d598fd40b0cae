import ResourceModel.Config.Setting
import ResourceModel.Text.Split

set_option autoImplicit false

/-! # Scalars of a TOML document

Truth values, integers, fractions, dates and times. A scalar is one run of characters that is read
as a whole. Digits may be grouped by single underscores; a decimal number has no needless leading
zero. A date is kept as its text. -/

namespace ResourceModel.Toml

/-! ## Numbers -/

/-- The digits in groups that underscores divide; none if a group is empty or holds anything
    else. -/
def grouped? (isDigit : Char → Bool) (text : List Char) : Option (List Char) :=
  let groups := Text.parts '_' text
  if groups.all fun group => !group.isEmpty && group.all isDigit then some groups.flatten else none

/-- Whether a character is a digit of some base. -/
def isHexDigit (c : Char) : Bool :=
  (Text.hexDigit? c).isSome

/-- A sign and what follows it. -/
def splitSign : List Char → Bool × List Char
  | '-' :: rest => (true, rest)
  | '+' :: rest => (false, rest)
  | text => (false, text)

/-- The digits of a decimal integer without a sign. -/
def decimalDigits? (text : List Char) : Option (List Char) :=
  (grouped? Char.isDigit text).filter fun digits => digits.length = 1 || digits.head? ≠ some '0'

/-- The integer of digits of a base. -/
def based? (base : Nat) (text : List Char) : Option Int :=
  (grouped? isHexDigit text).bind (Decimal.integer? base false)

/-- The integer that a run spells. -/
def integer? : List Char → Option Int
  | '0' :: 'x' :: digits => based? 16 digits
  | '0' :: 'o' :: digits => based? 8 digits
  | '0' :: 'b' :: digits => based? 2 digits
  | text =>
    let (negative, digits) := splitSign text
    (decimalDigits? digits).bind (Decimal.integer? 10 negative)

/-- The digits behind a point; there are none without one. -/
def pointDigits? : List Char → Option (List Char)
  | [] => some []
  | '.' :: digits => grouped? Char.isDigit digits
  | _ => none

/-- The number behind the mark of an exponent. -/
def power? (text : List Char) : Option Int :=
  let (negative, digits) := splitSign text
  ((grouped? Char.isDigit digits).bind (Decimal.natural? 10)).map fun n =>
    if negative then -(n : Int) else n

/-- The fraction of digits before the point, behind it, and of an exponent. One that exceeds the
    greatest number is none, unless it is negative. -/
def fractionOf? (negative : Bool) (whole point : List Char) (power : Int) : Option Fraction :=
  match Decimal.natural? 10 (whole ++ point) with
  | none => none
  | some digits =>
    match Fraction.ofSigned ⟨negative, digits, power - point.length⟩ with
    | .infinite false => none
    | value => some value

/-- The fraction that a run spells: with a point, an exponent, or both. -/
def fraction? (text : List Char) : Option Fraction :=
  let (negative, body) := splitSign text
  if body = "inf".toList then some (.infinite negative)
  else if body = "nan".toList then some .notNumber
  else
    let isMark (c : Char) := c = 'e' || c = 'E'
    let mantissa := body.takeWhile fun c => !isMark c
    let whole := mantissa.takeWhile (· ≠ '.')
    match decimalDigits? whole, pointDigits? (mantissa.drop whole.length),
        body.drop mantissa.length with
    | some _, some [], [] => none
    | some whole, some point, [] => fractionOf? negative whole point 0
    | some whole, some point, _ :: exponent =>
      (power? exponent).bind (fractionOf? negative whole point)
    | _, _, _ => none

/-! ## Dates and times -/

/-- The number of a fixed count of digits at the start of a text, if it lies in a range. -/
def digits? (count least greatest : Nat) (text : List Char) : Option (Nat × List Char) :=
  let digits := text.take count
  if digits.length = count ∧ digits.all Char.isDigit = true then
    match Decimal.natural? 10 digits with
    | some n => if least ≤ n ∧ n ≤ greatest then some (n, text.drop count) else none
    | none => none
  else none

/-- The number of days of a month. -/
def monthDays (year month : Nat) : Nat :=
  if month = 2 then
    if year % 4 = 0 ∧ (year % 100 ≠ 0 ∨ year % 400 = 0) then 29 else 28
  else if [4, 6, 9, 11].contains month then 30
  else 31

/-- Reads a date; answers its text. -/
def date? (text : List Char) : Option (List Char × List Char) :=
  match digits? 4 0 9999 text with
  | some (year, '-' :: rest) =>
    match digits? 2 1 12 rest with
    | some (month, '-' :: rest) =>
      match digits? 2 1 (monthDays year month) rest with
      | some (_, rest) => some (text.take 10, rest)
      | none => none
    | _ => none
  | _ => none

/-- The digits of a second's fraction as they are written: at most nine, without trailing zeros. -/
def secondFraction (digits : List Char) : List Char :=
  let kept := ((digits.take 9).reverse.dropWhile (· = '0')).reverse
  if kept.isEmpty then [] else '.' :: kept

/-- Reads a time of day; answers its text. -/
def time? (text : List Char) : Option (List Char × List Char) :=
  match digits? 2 0 23 text with
  | some (_, ':' :: rest) =>
    match digits? 2 0 59 rest with
    | some (_, ':' :: rest) =>
      match digits? 2 0 60 rest with
      | some (_, '.' :: rest) =>
        let digits := rest.takeWhile Char.isDigit
        if digits.isEmpty then none
        else some (text.take 8 ++ secondFraction digits, rest.drop digits.length)
      | some (_, rest) => some (text.take 8, rest)
      | none => none
    | _ => none
  | _ => none

/-- The text of an offset from universal time; none if the whole run is no offset. -/
def offset? : List Char → Option (List Char)
  | [] => some []
  | ['Z'] => some ['Z']
  | ['z'] => some ['Z']
  | sign :: rest =>
    if sign = '+' ∨ sign = '-' then
      match digits? 2 0 23 rest with
      | some (hours, ':' :: rest') =>
        match digits? 2 0 59 rest' with
        | some (minutes, []) =>
          some ((if hours = 0 ∧ minutes = 0 then '+' else sign) :: rest)
        | _ => none
      | _ => none
    else none

/-- The text of a time of day with or without an offset. -/
def offsetTime? (text : List Char) : Option (List Char) :=
  (time? text).bind fun (time, rest) => (offset? rest).map (time ++ ·)

/-- The text of the date or time that a run spells. -/
def dateTime? (text : List Char) : Option (List Char) :=
  match date? text with
  | some (date, []) => some date
  | some (date, mark :: rest) =>
    if mark = 'T' ∨ mark = 't' ∨ mark = ' ' then
      (offsetTime? rest).map fun time => date ++ 'T' :: time
    else none
  | none =>
    match time? text with
    | some (time, []) => some time
    | _ => none

/-! ## Scalars -/

/-- Whether a character may stand in a scalar. -/
def isScalarChar (c : Char) : Bool :=
  c.isAlphanum || c = '+' || c = '-' || c = '_' || c = '.' || c = ':'

/-- The run of a scalar and what follows it. A date and a time may have one space between them. -/
def scalarRun (text : List Char) : List Char × List Char :=
  let run := text.takeWhile isScalarChar
  let rest := text.drop run.length
  match date? run, rest with
  | some (_, []), ' ' :: digit :: more =>
    if digit.isDigit then
      let second := (digit :: more).takeWhile isScalarChar
      (run ++ ' ' :: second, (digit :: more).drop second.length)
    else (run, rest)
  | _, _ => (run, rest)

/-- The value of the run of a scalar. -/
def scalarOf? (run : List Char) : Option Setting :=
  if run = "true".toList then some (.truth true)
  else if run = "false".toList then some (.truth false)
  else match integer? run with
    | some n => some (.integer n)
    | none =>
      match fraction? run with
      | some value => some (.fraction value)
      | none => (dateTime? run).map fun text => .text (String.ofList text)

/-- Reads a scalar. -/
def scalar? (text : List Char) : Option (Setting × List Char) :=
  let (run, rest) := scalarRun text
  (scalarOf? run).map fun value => (value, rest)

end ResourceModel.Toml

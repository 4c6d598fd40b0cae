import ResourceModel.Config.Setting
import ResourceModel.Ron.Text

set_option autoImplicit false

/-! # Numbers of RON

Integers of four bases with grouped digits, and fractions. What spells no integer that fits is read
as a fraction. -/

namespace ResourceModel.Ron

/-- Whether a character may stand in an integer. -/
def isIntegerChar (c : Char) : Bool :=
  (Text.hexDigit? c).isSome || c = '_'

/-- Whether a character may stand in a fraction. -/
def isFractionChar (c : Char) : Bool :=
  c.isDigit || c = 'e' || c = 'E' || c = '.' || c = '+' || c = '-' || c = '_'

/-- A base by its mark, and the text behind the mark. -/
def splitBase : List Char → Nat × List Char
  | '0' :: 'x' :: rest => (16, rest)
  | '0' :: 'b' :: rest => (2, rest)
  | '0' :: 'o' :: rest => (8, rest)
  | text => (10, text)

/-- Reads the digits of an integer behind its sign. Underscores may stand behind the first digit. -/
def natural? (text : List Char) : Option (Nat × List Char) :=
  let (base, text) := splitBase text
  let run := text.takeWhile isIntegerChar
  if run.head? = some '_' then none
  else (Decimal.natural? base (run.filter (· ≠ '_'))).map fun n => (n, text.drop run.length)

/-- Reads an integer: one with a sign fits into 64 bits with it, one without into 64 bits. Beyond 63
    bits it counts as a fraction. -/
def integer? : List Char → Option (Setting × List Char)
  | '-' :: rest => (natural? rest).bind fun (n, rest) =>
    if n ≤ Nat.pow 2 63 then some (.integer (-n), rest) else none
  | '+' :: rest => (natural? rest).bind fun (n, rest) =>
    if n < Nat.pow 2 63 then some (.integer n, rest) else none
  | text => (natural? text).bind fun (n, rest) =>
    if n < Nat.pow 2 64 then some (Setting.ofNumber (.integer n), rest) else none

/-- The words for fractions without bound or value. -/
def fractionWords : List (String × Fraction) :=
  [("inf", .infinite false), ("+inf", .infinite false), ("-inf", .infinite true),
    ("NaN", .notNumber), ("+NaN", .notNumber), ("-NaN", .notNumber)]

/-- Reads a word for a fraction. -/
def fractionWord? (text : List Char) : Option (Setting × List Char) :=
  fractionWords.findSome? fun row =>
    (wordEnd? row.1 text).map fun rest => (.fraction row.2, rest)

/-- Reads a fraction. -/
def fraction? (text : List Char) : Option (Setting × List Char) :=
  match fractionWord? text with
  | some read => some read
  | none =>
    let (run, rest) := runOf isFractionChar text
    (Fraction.ofText? run).map fun value => (.fraction value, rest)

/-- The text behind a sign. -/
def afterSign : List Char → List Char
  | '-' :: rest => rest
  | '+' :: rest => rest
  | text => text

/-- Whether more of a text can be read as a fraction than as an integer. -/
def isFraction (text : List Char) : Bool :=
  let body := afterSign text
  (body.takeWhile isIntegerChar).length < (body.takeWhile isFractionChar).length

/-- Whether a text begins with what begins a number. -/
def beginsNumber (text : List Char) : Bool :=
  text.head?.any fun c => c.isDigit || c = '+' || c = '-' || c = '.'

/-- Reads a number. -/
def number? (text : List Char) : Option (Setting × List Char) :=
  if !beginsNumber text then none
  else if isFraction text then fraction? text
  else (integer? text).or (fraction? text)

end ResourceModel.Ron

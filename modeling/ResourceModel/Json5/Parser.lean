import ResourceModel.Config.Setting
import ResourceModel.Json5.Text

set_option autoImplicit false

/-! # Settings in JSON5

A reader for structured values as people write them: with comments, names as keys, trailing commas
and more kinds of numbers. -/

namespace ResourceModel.Json5

/-! ## Numbers -/

/-- Whether a text begins with another one, and what follows it. -/
def wordEnd? (word : String) (text : List Char) : Option (List Char) :=
  if word.toList.isPrefixOf text then some (text.drop word.length) else none

/-- Reads the exponent of a number, if one is written. -/
def exponent? : List Char → Option Int × List Char
  | c :: rest =>
    if c = 'e' ∨ c = 'E' then
      let (negative, digits) := match rest with
        | '-' :: digits => (true, digits)
        | '+' :: digits => (false, digits)
        | digits => (false, digits)
      let run := digits.takeWhile Char.isDigit
      match Decimal.natural? 10 run with
      | some n => (some (if negative then -(n : Int) else n), digits.drop run.length)
      | none => (none, c :: rest)
    else (none, c :: rest)
  | [] => (none, [])

/-- The fraction of digits before the point, behind it, and of an exponent. It has to be finite. -/
def fractionOf? (negative : Bool) (whole point : List Char) (exponent : Int) : Option Setting :=
  (Decimal.natural? 10 (whole ++ point)).bind fun digits =>
    match Fraction.ofSigned ⟨negative, digits, exponent - point.length⟩ with
    | .finite value => some (.fraction (.finite value))
    | _ => none

/-- The integer of digits, which fits into 64 bits with its sign. -/
def integerOf? (negative : Bool) (digits : List Char) : Option Setting :=
  (Decimal.integer? 10 negative digits).map Setting.integer

/-- Reads a decimal number behind its sign. There is no needless zero in front. -/
def decimal? (negative : Bool) (text : List Char) : Option (Setting × List Char) :=
  let whole := text.takeWhile Char.isDigit
  if 1 < whole.length ∧ whole.head? = some '0' then none
  else match text.drop whole.length with
    | '.' :: rest =>
      let point := rest.takeWhile Char.isDigit
      let (exponent, rest) := exponent? (rest.drop point.length)
      (fractionOf? negative whole point (exponent.getD 0)).map (·, rest)
    | rest =>
      match exponent? rest with
      | (some exponent, rest) => (fractionOf? negative whole [] exponent).map (·, rest)
      | (none, rest) => (integerOf? negative whole).map (·, rest)

/-- Reads a hexadecimal number of at most 32 bits behind its mark. -/
def hexadecimal? (text : List Char) : Option (Setting × List Char) :=
  let digits := text.takeWhile fun c => (Text.hexDigit? c).isSome
  (Decimal.natural? 16 digits).bind fun n =>
    if n < Nat.pow 2 32 then some (.integer n, text.drop digits.length) else none

/-- The word for a fraction without bound or value that a text begins with, and what follows it. -/
def word? (negative : Bool) (text : List Char) : Option (Setting × List Char) :=
  match wordEnd? "Infinity" text with
  | some rest => some (.fraction (.infinite negative), rest)
  | none => (wordEnd? "NaN" text).map fun rest => (.fraction .notNumber, rest)

/-- Reads a number. Only a decimal one may have a plus sign, and a hexadecimal one has no sign. -/
def number? : List Char → Option (Setting × List Char)
  | '-' :: rest => (word? true rest).or (decimal? true rest)
  | '+' :: rest => decimal? false rest
  | '0' :: 'x' :: rest => hexadecimal? rest
  | '0' :: 'X' :: rest => hexadecimal? rest
  | text => (word? false text).or (decimal? false text)

/-! ## Values -/

/-- The words for values, and what they stand for. -/
def words : List (String × Setting) :=
  [("null", .absent), ("true", .truth true), ("false", .truth false)]

/-- Reads a value that holds no others. -/
def scalar? (text : List Char) : Option (Setting × List Char) :=
  match words.findSome? fun row => (wordEnd? row.1 text).map fun rest => (row.2, rest) with
  | some read => some read
  | none =>
    match string? text with
    | some (value, rest) => some (.text value, rest)
    | none => number? text

mutual

/-- Reads a value. The fuel is more than the length of the text. -/
def readValue : Nat → List Char → Option (Setting × List Char)
  | 0, _ => none
  | fuel + 1, text =>
    match text with
    | '[' :: rest =>
      match skipGap? rest with
      | some (']' :: rest) => some (.list [], rest)
      | some rest => (readItems fuel rest).map fun (items, rest) => (.list items, rest)
      | none => none
    | '\x7b' :: rest =>
      match skipGap? rest with
      | some ('\x7d' :: rest) => some (.table [], rest)
      | some rest => (readRows fuel rest).map fun (rows, rest) => (.table (Table.ofRows rows), rest)
      | none => none
    | text => scalar? text

/-- Reads the items of a list, from the first one to the closing bracket. -/
def readItems : Nat → List Char → Option (List Setting × List Char)
  | 0, _ => none
  | fuel + 1, text =>
    match readValue fuel text with
    | none => none
    | some (item, rest) =>
      match skipGap? rest with
      | some (']' :: rest) => some ([item], rest)
      | some (',' :: rest) =>
        match skipGap? rest with
        | some (']' :: rest) => some ([item], rest)
        | some rest => (readItems fuel rest).map fun (items, rest) => (item :: items, rest)
        | none => none
      | _ => none

/-- Reads the rows of a table, from the first key to the closing brace. -/
def readRows : Nat → List Char → Option (List (String × Setting) × List Char)
  | 0, _ => none
  | fuel + 1, text =>
    match readRow fuel text with
    | none => none
    | some (row, rest) =>
      match skipGap? rest with
      | some ('\x7d' :: rest) => some ([row], rest)
      | some (',' :: rest) =>
        match skipGap? rest with
        | some ('\x7d' :: rest) => some ([row], rest)
        | some rest => (readRows fuel rest).map fun (rows, rest) => (row :: rows, rest)
        | none => none
      | _ => none

/-- Reads a key and its value. -/
def readRow : Nat → List Char → Option ((String × Setting) × List Char)
  | 0, _ => none
  | fuel + 1, text =>
    match key? text with
    | none => none
    | some (key, rest) =>
      match skipGap? rest with
      | some (':' :: rest) =>
        match skipGap? rest with
        | some rest => (readValue fuel rest).map fun (value, rest) => ((key, value), rest)
        | none => none
      | _ => none

end

/-- The rows of the table that a text has to be. -/
def parse (text : String) : Option (List (String × Setting)) :=
  let chars := text.toList
  match (skipGap? chars).bind (readValue (2 * chars.length + 2)) with
  | some (.table rows, rest) => if skipGap? rest = some [] then some rows else none
  | _ => none

end ResourceModel.Json5

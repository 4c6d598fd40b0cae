import ResourceModel.Decimal.Reading
import ResourceModel.Text.Split

set_option autoImplicit false

/-! # Tables of code points

Properties of the Unicode character database (version 17) are tables of code points. A table is
written as lines of items with a space between them; all numbers are hexadecimal. An item of a set
is a code point or a range (`41-5A`). An item of a map gives what a code point becomes, either one
code point or several with dots between them (`132>69.6A`); in a range every code point becomes the
one at the same distance (`C0-D6>E0`), and only every second one counts behind `/2`. -/

namespace ResourceModel.Unicode

/-! ## Items -/

/-- The number that hexadecimal digits stand for. -/
def hexNumber (digits : List Char) : Nat :=
  (Decimal.natural? 16 digits).getD 0

/-- The items on lines. -/
def items (lines : List String) : List (List Char) :=
  lines.flatMap fun line => Text.parts ' ' line.toList

/-- A range of code points. -/
structure CodeRange where
  first : Nat
  last : Nat
  deriving DecidableEq, Repr

namespace CodeRange

/-- The range that an item gives. -/
def ofItem (item : List Char) : CodeRange :=
  match Text.cut? '-' item with
  | some (first, last) => ⟨hexNumber first, hexNumber last⟩
  | none => ⟨hexNumber item, hexNumber item⟩

/-- Whether a code point lies in a range. -/
def holds (range : CodeRange) (code : Nat) : Bool :=
  range.first ≤ code && code ≤ range.last

end CodeRange

/-! ## Sets -/

/-- A set of code points. -/
abbrev CodeSet := List CodeRange

namespace CodeSet

/-- The set that lines of items give. -/
def ofLines (lines : List String) : CodeSet :=
  (items lines).map CodeRange.ofItem

/-- Whether a character belongs to a set. -/
def holds (set : CodeSet) (c : Char) : Bool :=
  set.any (·.holds c.toNat)

end CodeSet

/-! ## Maps -/

/-- What the code points of a range become: every `step`-th of them counts. -/
structure CodeRow where
  range : CodeRange
  step : Nat
  target : List Nat
  deriving DecidableEq, Repr

namespace CodeRow

/-- The row that an item gives. -/
def ofItem (item : List Char) : CodeRow :=
  let (source, target) := (Text.cut? '>' item).getD (item, [])
  let (range, step) := match Text.cut? '/' source with
    | some (range, step) => (range, hexNumber step)
    | none => (source, 1)
  ⟨CodeRange.ofItem range, step, (Text.parts '.' target).map hexNumber⟩

/-- Whether a row tells what a code point becomes. -/
def holds (row : CodeRow) (code : Nat) : Bool :=
  row.range.holds code && (code - row.range.first) % row.step == 0

/-- What a code point of a row becomes. -/
def image (row : CodeRow) (code : Nat) : List Char :=
  match row.target with
  | [target] => [Char.ofNat (target + (code - row.range.first))]
  | target => target.map Char.ofNat

end CodeRow

/-- A map from code points to texts. -/
abbrev CodeMap := List CodeRow

namespace CodeMap

/-- The map that lines of items give. -/
def ofLines (lines : List String) : CodeMap :=
  (items lines).map CodeRow.ofItem

/-- What a character becomes, if the map says so. -/
def image? (map : CodeMap) (c : Char) : Option (List Char) :=
  (map.find? (·.holds c.toNat)).map (·.image c.toNat)

end CodeMap

end ResourceModel.Unicode

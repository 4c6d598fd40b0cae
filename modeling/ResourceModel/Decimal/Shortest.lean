import ResourceModel.Decimal.Binary64

set_option autoImplicit false

/-! # Shortest decimal text

The decimal number with the fewest digits that rounds to a given binary number, and its layout as
text. The candidates of one length are the two neighbours of the number among the decimals of that
length, so the first length with a candidate inside the rounding interval is the least one. -/

namespace ResourceModel

/-- The decimal `digits * 10 ^ exponent`. -/
structure Decimal where
  digits : Nat
  exponent : Int
  deriving DecidableEq, Repr

namespace Decimal

/-- The decimal digits of a natural number, the most significant first. -/
def digitChars (n : Nat) : List Char :=
  Nat.toDigits 10 n

/-- The same number without trailing zeros among its digits. The first argument bounds the number
    of zeros. -/
def stripZeros : Nat → Decimal → Decimal
  | 0, d => d
  | bound + 1, d =>
    if d.digits ≠ 0 ∧ d.digits % 10 = 0 then stripZeros bound ⟨d.digits / 10, d.exponent + 1⟩ else d

/-- The numbers that round to a given one, as multiples of a quarter of its last place: the
    interval from `low` to `high` around `middle`, with its ends when `closed`. A unit is the
    fraction `num / den`. -/
structure Interval where
  low : Nat
  middle : Nat
  high : Nat
  closed : Bool
  num : Nat
  den : Nat

/-- The interval that rounds to a number other than zero. -/
def Interval.around (x : Binary64) : Interval :=
  let (m, e) := x.scaled
  -- right below a power of two the numbers lie half as far apart, except at the least exponent
  let below := if m = Nat.pow 2 52 ∧ 0 < e then 1 else 2
  { low := 4 * m - below
    middle := 4 * m
    high := 4 * m + 2
    closed := m % 2 == 0
    num := Nat.pow 2 (e - 1076)
    den := Nat.pow 2 (1076 - e) }

/-- Whether `n * 10 ^ place` lies in the interval. -/
def Interval.holds (i : Interval) (n : Nat) (place : Int) : Bool :=
  let value := n * Nat.pow 10 place.toNat * i.den
  let unit := i.num * Nat.pow 10 (-place).toNat
  if i.closed then i.low * unit ≤ value && value ≤ i.high * unit
  else i.low * unit < value && value < i.high * unit

/-- The neighbour of the number among the multiples of `10 ^ place` that rounds to it; of two the
    nearer one, of two equally near ones the even one. -/
def Interval.candidate? (i : Interval) (place : Int) : Option Nat :=
  let step := Nat.pow 10 place.toNat * i.den
  let exact := i.middle * i.num * Nat.pow 10 (-place).toNat
  let n := exact / step
  let remainder := exact % step
  let lower := i.holds n place
  let upper := i.holds (n + 1) place
  if lower && upper then
    if 2 * remainder < step || (2 * remainder == step && n % 2 == 0) then some n else some (n + 1)
  else if lower then some n
  else if upper then some (n + 1)
  else none

/-- The least `p` with `num / den < 10 ^ p`, shifted by 400; the search starts at a lower bound
    and takes at most `bound` steps. -/
def Interval.widthFrom (i : Interval) : Nat → Nat → Nat
  | 0, p => p
  | bound + 1, p =>
    if i.middle * i.num * Nat.pow 10 (400 - p) < Nat.pow 10 (p - 400) * i.den then p
    else i.widthFrom bound (p + 1)

/-- The decimal position just above the leading digit of the number. -/
def Interval.width (i : Interval) : Int :=
  let binary : Int := (i.middle * i.num).log2 - i.den.log2
  -- a tenth of a binary digit is 0.030 decimal digits, so this start lies below the width
  let start := ((binary * 30102) / 100000 - 1 + 400).toNat
  (i.widthFrom 8 start : Int) - 400

/-- The first of the lengths `k`, `k + 1`, … with a candidate. -/
def Interval.search (i : Interval) (width : Int) : Nat → Int → Decimal
  | 0, k => ⟨i.middle * i.num / i.den, width - k⟩
  | bound + 1, k =>
    match i.candidate? (width - k) with
    | some n => ⟨n, width - k⟩
    | none => i.search width bound (k + 1)

/-- The decimal with the fewest digits that rounds to the absolute value of a number. -/
def shortest (x : Binary64) : Decimal :=
  if x.isZero then ⟨0, 0⟩
  else
    let i := Interval.around x
    stripZeros 20 (i.search i.width 18 1)

/-! ## Layout -/

/-- How a decimal is laid out: positionally while the point stands after at most `pointAfter`
    digits and before at most `zerosBefore` leading zeros, with an exponent otherwise. -/
structure Layout where
  pointAfter : Int
  zerosBefore : Int
  exponentPlus : String

/-- The text of a number in a layout: a fraction or an exponent is always written. -/
def Layout.text (layout : Layout) (negative : Bool) (d : Decimal) : String :=
  let digits := digitChars d.digits
  let count : Int := digits.length
  let point := count + d.exponent
  let zeros (n : Int) := List.replicate n.toNat '0'
  let body :=
    if 0 ≤ d.exponent ∧ point ≤ layout.pointAfter then
      digits ++ zeros d.exponent ++ ['.', '0']
    else if 0 < point ∧ point ≤ layout.pointAfter then
      digits.take point.toNat ++ ['.'] ++ digits.drop point.toNat
    else if -layout.zerosBefore ≤ point ∧ point ≤ 0 then
      ['0', '.'] ++ zeros (-point) ++ digits
    else
      let power := point - 1
      let sign := if power < 0 then ['-'] else layout.exponentPlus.toList
      let fraction := if digits.length ≤ 1 then [] else '.' :: digits.drop 1
      digits.take 1 ++ fraction ++ ['e'] ++ sign ++ digitChars power.natAbs
  String.ofList (if negative then '-' :: body else body)

end Decimal

/-- The shortest text that reads back as the number: positional from `0.00001` below `1e+16`, and
    always with a fraction or an exponent. -/
def Binary64.text (x : Binary64) : String :=
  Decimal.Layout.text ⟨16, 4, "+"⟩ x.isNegative (Decimal.shortest x)

/-- The shortest text that reads back as the number, always positional and with a fraction only
    where one is needed. -/
def Binary64.plainText (x : Binary64) : String :=
  let d := Decimal.shortest x
  let digits := Decimal.digitChars d.digits
  let point : Int := digits.length + d.exponent
  let zeros (n : Int) := List.replicate n.toNat '0'
  let body :=
    if 0 ≤ d.exponent then digits ++ zeros d.exponent
    else if 0 < point then digits.take point.toNat ++ ['.'] ++ digits.drop point.toNat
    else ['0', '.'] ++ zeros (-point) ++ digits
  String.ofList (if x.isNegative then '-' :: body else body)

end ResourceModel

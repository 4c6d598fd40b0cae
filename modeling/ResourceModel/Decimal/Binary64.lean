set_option autoImplicit false

/-! # Binary floating-point numbers of 64 bits

A number is kept as its 64 bits and read as an exact fraction; a fraction is rounded to the nearest
number, a tie to the one with an even significand. All arithmetic is on natural numbers. -/

namespace ResourceModel

/-- A finite binary floating-point number of 64 bits, given by its bits. -/
structure Binary64 where
  bits : UInt64
  deriving DecidableEq, Repr

namespace Binary64

/-- Whether the sign bit is set. -/
def isNegative (x : Binary64) : Bool :=
  Nat.pow 2 63 ≤ x.bits.toNat

/-- The bits without the sign. -/
def magnitude (x : Binary64) : Nat :=
  x.bits.toNat % Nat.pow 2 63

/-- The integer `m` and the exponent `e` with absolute value `m * 2 ^ (e - 1074)`. -/
def scaled (x : Binary64) : Nat × Nat :=
  let field := x.magnitude / Nat.pow 2 52
  let fraction := x.magnitude % Nat.pow 2 52
  if field = 0 then (fraction, 0) else (fraction + Nat.pow 2 52, field - 1)

/-- The absolute value as a fraction. -/
def ratio (x : Binary64) : Nat × Nat :=
  let (m, e) := x.scaled
  if 1074 ≤ e then (m * Nat.pow 2 (e - 1074), 1) else (m, Nat.pow 2 (1074 - e))

/-- Whether the number is zero, of either sign. -/
def isZero (x : Binary64) : Bool :=
  x.magnitude == 0

/-- The number with the given absolute bits and sign. -/
def ofMagnitude (negative : Bool) (magnitude : Nat) : Binary64 :=
  ⟨UInt64.ofNat (magnitude + if negative then Nat.pow 2 63 else 0)⟩

/-- The quotient rounded to the nearest integer, a tie to the even one. -/
def roundDiv (num den : Nat) : Nat :=
  let q := num / den
  let r := num % den
  if 2 * r > den || (2 * r == den && q % 2 == 1) then q + 1 else q

/-- The exponent `e` with `2 ^ (e - 1) ≤ num / den < 2 ^ e`, shifted by 1200 so that it is natural
    for every fraction above `2 ^ -1200`. -/
def binaryExponent (num den : Nat) : Nat :=
  let guess := num.log2 + 1200 - den.log2
  if num * Nat.pow 2 1200 < den * Nat.pow 2 guess then guess else guess + 1

/-- The number nearest to a fraction; none when that is beyond the greatest finite number. -/
def ofRatio (negative : Bool) (num den : Nat) : Option Binary64 :=
  if num = 0 then some (ofMagnitude negative 0)
  else
    -- the last kept binary place is `2 ^ (place - 1074)`
    let place := binaryExponent num den - (1200 - 1074) - 53
    let m :=
      if 1074 ≤ place then roundDiv num (den * Nat.pow 2 (place - 1074))
      else roundDiv (num * Nat.pow 2 (1074 - place)) den
    let magnitude := place * Nat.pow 2 52 + m
    if magnitude < 2047 * Nat.pow 2 52 then some (ofMagnitude negative magnitude) else none

/-- The natural number rounded to the nearest one of 64 bits. -/
def ofNat? (n : Nat) : Option Binary64 :=
  ofRatio false n 1

/-- The number nearest to `digits * 10 ^ exponent`; none when it is beyond the greatest finite
    number. Exponents far outside the range are settled without computing the power. -/
def ofDecimal (negative : Bool) (digits : Nat) (exponent : Int) : Option Binary64 :=
  if digits = 0 then some (ofMagnitude negative 0)
  else if exponent > 400 then none
  else if (digits.log2 : Int) + exponent < -1200 then some (ofMagnitude negative 0)
  else match exponent with
    | .ofNat e => ofRatio negative (digits * Nat.pow 10 e) 1
    | .negSucc e => ofRatio negative digits (Nat.pow 10 (e + 1))

/-- The absolute product, rounded. -/
def times (x y : Binary64) : Option Binary64 :=
  let (a, b) := x.ratio
  let (c, d) := y.ratio
  ofRatio false (a * c) (b * d)

/-- The absolute quotient by a non-zero number, rounded. -/
def divided (x y : Binary64) : Option Binary64 :=
  let (a, b) := x.ratio
  let (c, d) := y.ratio
  ofRatio false (a * d) (b * c)

end Binary64

end ResourceModel

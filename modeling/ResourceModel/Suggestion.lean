set_option autoImplicit false

/-! # Suggestions

How well a pattern fits into a name: its characters have to occur in the name in their order, and
score by where they stand. The score is that of the best alignment, found row by row over the
pattern's characters. -/

namespace ResourceModel.Suggestion

/-- The class of a character for the bonus of the character behind it. -/
inductive CharClass where
  | hardBreak
  | softBreak
  | upper
  | digit
  | other
  deriving DecidableEq, Repr

/-- The class of a character. -/
def classOf (c : Char) : CharClass :=
  let n := c.toNat
  if c = ' ' ∨ c = '/' ∨ c = '\\' ∨ c = '|' ∨ c = '(' ∨ c = ')' ∨ c = '[' ∨ c = ']' ∨ c = '{' ∨
      c = '}' then .hardBreak
  else if (0x21 ≤ n ∧ n ≤ 0x27) ∨ (0x2A ≤ n ∧ n ≤ 0x2E) ∨ (0x3A ≤ n ∧ n ≤ 0x40) ∨
      (0x5E ≤ n ∧ n ≤ 0x60) ∨ n = 0x7E then .softBreak
  else if c.isUpper then .upper
  else if c.isDigit then .digit
  else .other

/-- The bonus of a character behind one of a class: high behind a break, lower where a word begins
    with a capital. -/
def bonus (before : CharClass) (c : Char) : Int :=
  match before with
  | .hardBreak => 8
  | .softBreak => 7
  | .upper => 0
  | _ => if classOf c = .upper then 6 else 0

/-- The bonuses of the characters behind one of a class. -/
def bonusesFrom (before : CharClass) : List Char → List Int
  | [] => []
  | c :: rest => bonus before c :: bonusesFrom (classOf c) rest

/-- The bonuses of the characters of a name; that of the first one counts twice. -/
def bonuses (name : List Char) : List Int :=
  match bonusesFrom .hardBreak name with
  | [] => []
  | first :: rest => 2 * first :: rest

/-- Whether two characters fit. -/
def fits (exactCase : Bool) (a b : Char) : Bool :=
  if exactCase then a == b else a.toLower == b.toLower

/-- The leftmost positions, from `position` on, at which the characters of a pattern occur one
    after the other. -/
def leftmost? (exactCase : Bool) (position : Nat) : List Char → List Char → Option (List Nat)
  | [], _ => some []
  | _ :: _, [] => none
  | p :: pattern, c :: name =>
    if fits exactCase p c then
      (leftmost? exactCase (position + 1) pattern name).map (position :: ·)
    else leftmost? exactCase (position + 1) (p :: pattern) name

/-- The score of what cannot be. -/
def impossible : Int := -32768

/-- A row: for each column the score of an alignment that ends there with a match, that of one
    that has passed it by, and the bonus of the run of matches that ends there. -/
structure Row where
  matched : Array Int
  passed : Array Int
  run : Array Int

/-- A row of a width in which nothing has been aligned. -/
def Row.blank (width : Nat) (passed : Int) : Row :=
  ⟨Array.replicate width impossible, Array.replicate width passed, Array.replicate width 0⟩

/-- The entry of a column. -/
def entry (row : Array Int) (column : Nat) : Int :=
  row.getD column impossible

/-- Fills a column: the character in front of it either matches the pattern's character, extending
    an alignment of the row above, or is passed by. -/
def fill (exactCase : Bool) (p : Char) (above : Row) (row : Row) (column : Nat) (c : Char)
    (bonus : Int) : Row :=
  let row :=
    if fits exactCase p c then
      let best := max (max (row.run.getD (column - 1) 0) bonus) 4
      let score := max (entry above.matched (column - 1) + best)
        (entry above.passed (column - 1) + bonus)
      let reward := if p = c then 16 else 14
      { row with
        run := row.run.setIfInBounds (column - 1) best
        matched := row.matched.setIfInBounds column (score + reward) }
    else
      { row with
        run := row.run.setIfInBounds column 0
        matched := row.matched.setIfInBounds column impossible }
  -- the first character of a gap costs more than the further ones
  let passed := max (entry row.matched (column - 1) - 4) (entry row.passed (column - 1) - 1)
  { row with passed := row.passed.setIfInBounds column passed }

/-- Fills the columns from `column` on. -/
def fillFrom (exactCase : Bool) (p : Char) (above : Row) (row : Row) (column : Nat) :
    List (Char × Int) → Row
  | [] => row
  | (c, bonus) :: rest =>
    fillFrom exactCase p above (fill exactCase p above row column c bonus) (column + 1) rest

/-- The rows after the given characters of the pattern, with their leftmost positions. Two rows
    take turns: a row is filled over what it held two characters before. -/
def rows (exactCase : Bool) (name : List (Char × Int)) (above below : Row) :
    List (Char × Nat) → Row × Row
  | [] => (above, below)
  | (p, position) :: rest =>
    let filled := fillFrom exactCase p above below (position + 1) (name.drop position)
    rows exactCase name filled above rest

/-- The score of a pattern in a name; none if the name does not hold its characters in order. The
    case of letters counts if the pattern has a capital letter. -/
def score? (name pattern : String) : Option Int :=
  let chars := name.toList
  let pattern := pattern.toList
  let exactCase := pattern.any Char.isUpper
  match pattern.getLast? with
  | none => some 0
  | some _ =>
    match leftmost? exactCase 0 pattern chars with
    | none => none
    | some positions =>
      let width := chars.length + 1
      let start := (Row.blank width (-1), Row.blank width impossible)
      let last := (rows exactCase (chars.zip (bonuses chars)) start.1 start.2
        (pattern.zip positions)).1
      let scores := (last.matched.toList.drop (positions.getLastD 0))
      some (scores.foldl max impossible)

end ResourceModel.Suggestion

set_option autoImplicit false

/-! # Positions in a text of YAML 1.2

The text from a position on, with the position's index, line and column, and whether only blanks
stand before it on its line. A line ends in a line feed, a carriage return, or both. -/

namespace ResourceModel.Yaml12

/-- A position. -/
structure Cursor where
  rest : List Char
  index : Nat
  line : Nat
  column : Nat
  /-- Whether only blanks stand before the position on its line. -/
  fresh : Bool

/-- Whether a character is a space or a tab. -/
def isBlank (c : Char) : Bool :=
  c = ' ' || c = '\t'

/-- Whether a character ends a line. -/
def isBreak (c : Char) : Bool :=
  c = '\n' || c = '\r'

/-- Whether a character delimits items in a flow collection. -/
def isFlowMark (c : Char) : Bool :=
  c = ',' || c = '[' || c = ']' || c = '{' || c = '}'

/-- Whether a character may stand in a name. -/
def isWordChar (c : Char) : Bool :=
  c.isAlphanum || c = '_' || c = '-'

/-- Whether a text is at its end or begins with a line end. -/
def atLineEnd : List Char → Bool
  | [] => true
  | c :: _ => isBreak c

/-- Whether a text is at its end or begins with a blank or a line end. -/
def atGap : List Char → Bool
  | [] => true
  | c :: _ => isBlank c || isBreak c

/-- Whether a text begins with a mark of flow collections. -/
def atFlowMark (text : List Char) : Bool :=
  text.head?.any isFlowMark

/-- Whether a text begins with three equal marks and a gap. -/
def beginsMarker (mark : Char) : List Char → Bool
  | a :: b :: c :: rest => a == mark && b == mark && c == mark && atGap rest
  | _ => false

namespace Cursor

/-- The start of a text. -/
def start (text : List Char) : Cursor := ⟨text, 0, 0, 0, true⟩

/-- The next character. -/
def next? (c : Cursor) : Option Char :=
  c.rest.head?

/-- The position behind the given number of blanks. -/
def skipBlanks (c : Cursor) (count : Nat) : Cursor :=
  { c with rest := c.rest.drop count, index := c.index + count, column := c.column + count }

/-- The position behind the given number of characters that are no blanks. -/
def skip (c : Cursor) (count : Nat) : Cursor :=
  if count = 0 then c else { c.skipBlanks count with fresh := false }

/-- The position behind the characters of a class, none of which is a blank. -/
def skipWhile (c : Cursor) (p : Char → Bool) : Cursor :=
  c.skip (c.rest.takeWhile p).length

/-- The position behind a line end. -/
def skipBreak (c : Cursor) : Cursor :=
  match c.rest with
  | '\r' :: '\n' :: rest => ⟨rest, c.index + 2, c.line + 1, 0, true⟩
  | _ :: rest => ⟨rest, c.index + 1, c.line + 1, 0, true⟩
  | [] => c

/-- The position behind the rest of a line. -/
def skipLine (c : Cursor) : Cursor :=
  c.skipWhile fun x => !isBreak x

/-- Whether a document begins or ends here. -/
def atDocumentMarker (c : Cursor) : Bool :=
  c.column == 0 && (beginsMarker '-' c.rest || beginsMarker '.' c.rest)

/-- Whether a position lies left of a column. -/
def isLeftOf (c : Cursor) (column : Int) : Bool :=
  decide ((c.column : Int) < column)

/-- What stands between two tokens on a line: whether there are spaces and whether there are tabs.
    -/
structure Padding where
  spaces : Bool
  tabs : Bool

/-- Skips blanks, tabs only where they are allowed, and a comment behind them; none if a comment
    stands behind something else. -/
def skipPadding (c : Cursor) (tabs : Bool) : Option (Cursor × Padding) :=
  let blanks := c.rest.takeWhile fun x => x = ' ' || (tabs && x = '\t')
  let padding : Padding := ⟨blanks.contains ' ', blanks.contains '\t'⟩
  let c := c.skipBlanks blanks.length
  if c.next? = some '#' then
    if padding.spaces || padding.tabs then some (c.skipLine, padding) else none
  else some (c, padding)

/-- The position behind blanks and a comment; none if a comment stands behind something else. -/
def padded? (c : Cursor) : Option Cursor :=
  (c.skipPadding true).map (·.1)

end Cursor

end ResourceModel.Yaml12

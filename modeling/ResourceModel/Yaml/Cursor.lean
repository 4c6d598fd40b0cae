import ResourceModel.Text.Split

set_option autoImplicit false

/-! # Positions in a YAML text

The text from a position on, with the position's index, line and column. -/

namespace ResourceModel.Yaml

/-- A position: the text that follows it, the number of characters before it, its line and its
    column. -/
structure Cursor where
  rest : List Char
  index : Nat
  line : Nat
  column : Nat

/-- Whether a character may stand in a text at all. -/
def isAllowed (c : Char) : Bool :=
  let n := c.toNat
  n = 0x9 || n = 0xA || n = 0xD || (0x20 ≤ n && n ≤ 0x7E) || n = 0x85 ||
    (0xA0 ≤ n && n ≤ 0xFFFD) || 0x10000 ≤ n

/-- Whether a character is a space or a tab. -/
def isBlank (c : Char) : Bool :=
  c = ' ' || c = '\t'

/-- Whether a character ends a line. -/
def isBreak (c : Char) : Bool :=
  c = '\n' || c = '\r' || c.toNat = 0x85 || c.toNat = 0x2028 || c.toNat = 0x2029

/-- Whether a character may stand in a name. -/
def isWordChar (c : Char) : Bool :=
  c.isAlphanum || c = '_' || c = '-'

/-- Whether a text is at its end or begins with a blank or a line end. -/
def atGap : List Char → Bool
  | [] => true
  | c :: _ => isBlank c || isBreak c

/-- Whether a text is at its end or begins with a line end. -/
def atLineEnd : List Char → Bool
  | [] => true
  | c :: _ => isBreak c

namespace Cursor

/-- The start of a text. -/
def start (text : List Char) : Cursor := ⟨text, 0, 0, 0⟩

/-- The position behind the given number of characters of a line. -/
def skip (c : Cursor) (count : Nat) : Cursor :=
  ⟨c.rest.drop count, c.index + count, c.line, c.column + count⟩

/-- The position behind the characters of a class. -/
def skipWhile (c : Cursor) (p : Char → Bool) : Cursor :=
  c.skip (c.rest.takeWhile p).length

/-- The position behind a line end, and what the line end is read as: a line feed, or the
    separator character itself. -/
def skipBreak (c : Cursor) : Cursor × List Char :=
  match c.rest with
  | '\r' :: '\n' :: rest => (⟨rest, c.index + 2, c.line + 1, 0⟩, ['\n'])
  | b :: rest =>
    let kept := if b.toNat = 0x2028 ∨ b.toNat = 0x2029 then b else '\n'
    (⟨rest, c.index + 1, c.line + 1, 0⟩, [kept])
  | [] => (c, [])

/-- The position behind a line end, if there is one. -/
def skipLineEnd (c : Cursor) : Cursor :=
  c.skipBreak.1

/-- The next character. -/
def next? (c : Cursor) : Option Char :=
  c.rest.head?

/-- Whether a document marker stands here: three equal marks at the start of a line, and a gap. -/
def atMarker (c : Cursor) (mark : Char) : Bool :=
  c.column == 0 && match c.rest with
    | a :: b :: d :: rest => a == mark && b == mark && d == mark && atGap rest
    | _ => false

/-- Whether a document starts or ends here. -/
def atDocumentMarker (c : Cursor) : Bool :=
  c.atMarker '-' || c.atMarker '.'

/-- The end of the line, behind blanks and a comment; none if anything else stands there. -/
def endOfLine? (c : Cursor) : Option Cursor :=
  let c := c.skipWhile isBlank
  let c := if c.next? = some '#' then c.skipWhile (fun x => !isBreak x) else c
  if atLineEnd c.rest then some c.skipLineEnd else none

end Cursor

end ResourceModel.Yaml

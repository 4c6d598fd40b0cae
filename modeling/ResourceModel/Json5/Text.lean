import ResourceModel.Decimal.Reading
import ResourceModel.Text.Blank
import ResourceModel.Unicode.Category

set_option autoImplicit false

/-! # Texts of JSON5

The gaps between tokens, with comments of both kinds, and the names and strings that are keys and
values. Escapes may spell code units; two of them together give a character above the first
plane. -/

namespace ResourceModel.Json5

/-! ## Gaps -/

/-- Whether a character ends a line. -/
def isLineEnd (c : Char) : Bool :=
  c = '\n' || c = '\r' || c.toNat = 0x2028 || c.toNat = 0x2029

/-- Whether a character may stand between tokens. -/
def isGap (c : Char) : Bool :=
  (Text.isBlank c && c.toNat ≠ 0x85) || c.toNat = 0xFEFF

/-- Where a gap is: between comments, or in a comment up to the end of the line or up to its closing
    mark. -/
inductive GapPart where
  | plain
  | line
  | block
  deriving DecidableEq, Repr

/-- What follows the rest of a gap; none if it ends inside a comment that has to be closed. -/
def gapEnd? : GapPart → List Char → Option (List Char)
  | .plain, '/' :: '/' :: rest => gapEnd? .line rest
  | .plain, '/' :: '*' :: rest => gapEnd? .block rest
  | .plain, c :: rest => if isGap c then gapEnd? .plain rest else some (c :: rest)
  | .line, c :: rest => gapEnd? (if isLineEnd c then .plain else .line) rest
  | .block, '*' :: '/' :: rest => gapEnd? .plain rest
  | .block, _ :: rest => gapEnd? .block rest
  | .block, [] => none
  | .plain, [] => some []
  | .line, [] => some []

/-- What follows a gap. -/
def skipGap? (text : List Char) : Option (List Char) :=
  gapEnd? .plain text

/-! ## Pieces -/

/-- A piece of a name or a string: a character, a code unit that is spelled, or a line end that is
    passed over. -/
inductive Piece where
  | character (c : Char)
  | unit (code : Nat)
  | join
  deriving DecidableEq, Repr

namespace Piece

/-- The characters of pieces. A half of a pair of code units needs the other half next to it; `high`
    is the first half that was read. -/
def charactersFrom (high : Option Nat) : List Piece → Option (List Char)
  | [] => if high.isSome then none else some []
  | .join :: rest => charactersFrom high rest
  | .character c :: rest =>
    if high.isSome then none else (charactersFrom none rest).map (c :: ·)
  | .unit code :: rest =>
    match high with
    | some high =>
      if 0xDC00 ≤ code ∧ code < 0xE000 then
        let c := Char.ofNat (0x10000 + (high - 0xD800) * 0x400 + (code - 0xDC00))
        (charactersFrom none rest).map (c :: ·)
      else none
    | none =>
      if 0xD800 ≤ code ∧ code < 0xDC00 then charactersFrom (some code) rest
      else if 0xDC00 ≤ code ∧ code < 0xE000 then none
      else (charactersFrom none rest).map (Char.ofNat code :: ·)

/-- The text of pieces. -/
def text? (pieces : List Piece) : Option String :=
  (charactersFrom none pieces).map String.ofList

/-- Reads the code unit that so many hexadecimal digits spell. -/
def unit? (count : Nat) (text : List Char) : Option (Piece × List Char) :=
  let digits := text.take count
  if digits.length = count then
    (Decimal.natural? 16 digits).map fun code => (.unit code, text.drop count)
  else none

/-- The character that a character behind a backslash stands for. -/
def escaped (c : Char) : Char :=
  match c with
  | 'b' => Char.ofNat 8
  | 'f' => Char.ofNat 12
  | 'n' => '\n'
  | 'r' => '\r'
  | 't' => '\t'
  | 'v' => Char.ofNat 11
  | c => c

/-- Reads what follows a backslash in a string. -/
def escape? : List Char → Option (Piece × List Char)
  | '\r' :: '\n' :: rest => some (.join, rest)
  | '0' :: rest => some (.character (Char.ofNat 0), rest)
  | 'x' :: rest => unit? 2 rest
  | 'u' :: rest => unit? 4 rest
  | c :: rest =>
    if isLineEnd c then some (.join, rest)
    else if c.isDigit then none
    else some (.character (escaped c), rest)
  | [] => none

/-- Reads a piece of a string. -/
def ofString? : List Char → Option (Piece × List Char)
  | '\\' :: rest => escape? rest
  | c :: rest => if isLineEnd c then none else some (.character c, rest)
  | [] => none

/-- Whether a character may begin a name. -/
def beginsName (c : Char) : Bool :=
  c = '$' || c = '_' || Unicode.isLetter c

/-- Whether a character may follow others in a name. -/
def continuesName (c : Char) : Bool :=
  beginsName c || Unicode.isNonspacing c || Unicode.isFreeDiacritic c ||
    Unicode.isDecimalDigit c || Unicode.isConnector c || c.toNat = 0x200C || c.toNat = 0x200D

/-- Reads a piece of a name: a character of a class or a spelled code unit. -/
def ofName? (isMember : Char → Bool) : List Char → Option (Piece × List Char)
  | '\\' :: 'u' :: rest => unit? 4 rest
  | c :: rest => if isMember c then some (.character c, rest) else none
  | [] => none

end Piece

/-! ## Strings and names -/

/-- Reads the pieces of a string up to its closing quote. The fuel is more than the length of the
    text. -/
def stringPieces (quote : Char) : Nat → List Char → Option (List Piece × List Char)
  | 0, _ => none
  | fuel + 1, text =>
    if text.head? = some quote then some ([], text.tail)
    else match Piece.ofString? text with
      | some (piece, rest) =>
        (stringPieces quote fuel rest).map fun (pieces, left) => (piece :: pieces, left)
      | none => none

/-- Reads a string behind its opening quote. -/
def stringRest? (quote : Char) (text : List Char) : Option (String × List Char) :=
  (stringPieces quote (text.length + 1) text).bind fun (pieces, rest) =>
    (Piece.text? pieces).map fun string => (string, rest)

/-- Reads a string; none if the text does not begin with one. -/
def string? : List Char → Option (String × List Char)
  | '"' :: rest => stringRest? '"' rest
  | '\'' :: rest => stringRest? '\'' rest
  | _ => none

/-- Reads as many pieces of a name as there are, behind its first. The fuel is at least the length
    of the text. -/
def namePieces : Nat → List Char → List Piece × List Char
  | 0, text => ([], text)
  | fuel + 1, text =>
    match Piece.ofName? Piece.continuesName text with
    | some (piece, rest) =>
      let (pieces, left) := namePieces fuel rest
      (piece :: pieces, left)
    | none => ([], text)

/-- Reads a name; none if the text does not begin with one. -/
def name? (text : List Char) : Option (String × List Char) :=
  (Piece.ofName? Piece.beginsName text).bind fun (first, rest) =>
    let (pieces, rest) := namePieces rest.length rest
    (Piece.text? (first :: pieces)).map fun name => (name, rest)

/-- Reads a key: a name or a string. -/
def key? (text : List Char) : Option (String × List Char) :=
  match text with
  | '"' :: _ => string? text
  | '\'' :: _ => string? text
  | text => name? text

end ResourceModel.Json5

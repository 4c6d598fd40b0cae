import ResourceModel.Decimal.Reading
import ResourceModel.Text.Code

set_option autoImplicit false

/-! # Texts of a TOML document

The characters that may stand in a document, the gaps between its tokens, its keys, and its strings:
of one line or several, with escapes or literal. -/

namespace ResourceModel.Toml

/-! ## Gaps -/

/-- Whether a character is a space or a tab. -/
def isBlank (c : Char) : Bool :=
  c = ' ' || c = '\t'

/-- Whether a character may stand in a comment, and in a string where it has no other meaning. -/
def isPlain (c : Char) : Bool :=
  c = '\t' || (' ' ≤ c && c ≤ '~') || 0x80 ≤ c.toNat

/-- The text without leading spaces and tabs. -/
def skipBlanks (text : List Char) : List Char :=
  text.dropWhile isBlank

/-- What follows a line end. -/
def afterLine? : List Char → Option (List Char)
  | '\n' :: rest => some rest
  | '\r' :: '\n' :: rest => some rest
  | _ => none

/-- The text without a leading comment. -/
def skipComment : List Char → List Char
  | '#' :: rest => rest.dropWhile isPlain
  | text => text

/-- What follows the rest of a line that holds nothing but a comment; none if it holds more. -/
def endLine? (text : List Char) : Option (List Char) :=
  match skipComment (skipBlanks text) with
  | [] => some []
  | rest => afterLine? rest

/-- The text without leading spaces, tabs, line ends and comments. The flag tells whether the text
    begins inside a comment. -/
def skipGaps (comment : Bool) : List Char → List Char
  | [] => []
  | '\n' :: rest => skipGaps false rest
  | '\r' :: '\n' :: rest => skipGaps false rest
  | c :: rest =>
    if comment then
      if isPlain c then skipGaps true rest else c :: rest
    else if isBlank c then skipGaps false rest
    else if c = '#' then skipGaps true rest
    else c :: rest

/-! ## Escapes -/

/-- Reads the character with a code point of so many hexadecimal digits. -/
def codeEscape? (count : Nat) (text : List Char) : Option (Char × List Char) :=
  let digits := text.take count
  if digits.length = count then
    (Decimal.natural? 16 digits).bind fun code =>
      (Text.ofCode? code).map fun c => (c, text.drop count)
  else none

/-- Reads what follows the backslash of an escape. -/
def escape? : List Char → Option (Char × List Char)
  | 'b' :: rest => some (Char.ofNat 8, rest)
  | 't' :: rest => some ('\t', rest)
  | 'n' :: rest => some ('\n', rest)
  | 'f' :: rest => some (Char.ofNat 12, rest)
  | 'r' :: rest => some ('\r', rest)
  | '"' :: rest => some ('"', rest)
  | '\\' :: rest => some ('\\', rest)
  | 'u' :: rest => codeEscape? 4 rest
  | 'U' :: rest => codeEscape? 8 rest
  | _ => none

/-- What follows a backslash at the end of a line: all blanks and line ends are passed over. -/
def continuation? (text : List Char) : Option (List Char) :=
  (afterLine? (skipBlanks text)).map fun rest =>
    rest.dropWhile fun c => isBlank c || c = '\n' || c = '\r'

/-! ## Strings -/

/-- How a string is written: its quote, whether it spans lines, and whether it has escapes. -/
structure Style where
  quote : Char
  lines : Bool
  escapes : Bool

/-- The number of characters at the start of a text that are the given one. -/
def runLength (c : Char) (text : List Char) : Nat :=
  (text.takeWhile (· = c)).length

/-- Reads the rest of a string. A string over several lines ends at three quotes, in front of which
    up to two more belong to it. The fuel is at least the length of the text. -/
def stringBody (style : Style) : Nat → List Char → Option (List Char × List Char)
  | 0, _ => none
  | _, [] => none
  | fuel + 1, c :: rest =>
    let further (read : List Char) (text : List Char) :=
      (stringBody style fuel text).map fun (body, left) => (read ++ body, left)
    if c = style.quote then
      if !style.lines then some ([], rest)
      else
        let count := runLength style.quote (c :: rest)
        if 3 ≤ count then
          let extra := min (count - 3) 2
          some (List.replicate extra style.quote, rest.drop (extra + 2))
        else further [c] rest
    else if c = '\\' && style.escapes then
      match if style.lines then continuation? rest else none with
      | some text => further [] text
      | none =>
        match escape? rest with
        | some (character, text) => further [character] text
        | none => none
    else if isPlain c then further [c] rest
    else if style.lines then
      match afterLine? (c :: rest) with
      | some text => further ['\n'] text
      | none => none
    else none

/-- Reads the rest of a string whose opening quotes have been read. A line end right behind the
    quotes of a string over several lines does not belong to it. -/
def stringRest (style : Style) (text : List Char) : Option (List Char × List Char) :=
  let text := if style.lines then (afterLine? text).getD text else text
  stringBody style (text.length + 1) text

/-- Reads a string; none if the text does not begin with one. -/
def string? (text : List Char) : Option (List Char × List Char) :=
  match text with
  | '"' :: '"' :: '"' :: rest => stringRest ⟨'"', true, true⟩ rest
  | '"' :: rest => stringRest ⟨'"', false, true⟩ rest
  | '\'' :: '\'' :: '\'' :: rest => stringRest ⟨'\'', true, false⟩ rest
  | '\'' :: rest => stringRest ⟨'\'', false, false⟩ rest
  | _ => none

/-! ## Keys -/

/-- Whether a character may stand in a bare key. -/
def isKeyChar (c : Char) : Bool :=
  c.isAlphanum || c = '_' || c = '-'

/-- Reads a key: a bare one, or a string of one line. -/
def key? (text : List Char) : Option (String × List Char) :=
  match text with
  | '"' :: rest =>
    (stringRest ⟨'"', false, true⟩ rest).map fun read => (String.ofList read.1, read.2)
  | '\'' :: rest =>
    (stringRest ⟨'\'', false, false⟩ rest).map fun read => (String.ofList read.1, read.2)
  | text =>
    let bare := text.takeWhile isKeyChar
    if bare.isEmpty then none else some (String.ofList bare, text.drop bare.length)

/-- Reads keys with dots between them, and the blanks around each. The fuel is at least the length
    of the text. -/
def keysFrom : Nat → List Char → Option (List String × List Char)
  | 0, _ => none
  | fuel + 1, text =>
    match key? (skipBlanks text) with
    | none => none
    | some (key, rest) =>
      match skipBlanks rest with
      | '.' :: rest => (keysFrom fuel rest).map fun (keys, left) => (key :: keys, left)
      | rest => some ([key], rest)

/-- Keys with dots between them are fewer than this, and lists and tables on a line lie in each
    other less deep. -/
def nestingLimit : Nat := 80

/-- Reads keys with dots between them. -/
def keys? (text : List Char) : Option (List String × List Char) :=
  (keysFrom (text.length + 1) text).filter fun read => read.1.length < nestingLimit

end ResourceModel.Toml

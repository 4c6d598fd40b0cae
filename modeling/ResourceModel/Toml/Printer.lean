import ResourceModel.Toml.Text

set_option autoImplicit false

/-! # Writing TOML documents

Strings, keys and sections. A string is written in the first form that needs no escapes: in double
quotes, in single quotes, and in three of either; a key is bare where that is allowed. -/

namespace ResourceModel.Toml

/-! ## What a text holds -/

/-- Whether a character has to be written as an escape in every string. -/
def isControl (c : Char) : Bool :=
  (c.toNat < 0x20 && c ≠ '\t' && c ≠ '\n') || c.toNat = 0x7F

/-- The length of the longest run of a character, given that of the run in front of the text. -/
def longestRun (quote : Char) (run : Nat) : List Char → Nat
  | [] => run
  | c :: rest =>
    if c = quote then longestRun quote (run + 1) rest else max run (longestRun quote 0 rest)

/-- What decides about the form of a text: whether it holds control characters, backslashes and
    line feeds, and its longest runs of quotes. -/
structure Traits where
  controls : Bool
  backslashes : Bool
  lines : Bool
  singles : Nat
  doubles : Nat
  deriving DecidableEq, Repr

/-- The traits of a text. -/
def Traits.of (text : List Char) : Traits :=
  ⟨text.any isControl, text.contains '\\', text.contains '\n', longestRun '\'' 0 text,
    longestRun '"' 0 text⟩

/-! ## Strings -/

/-- The forms of a string. -/
inductive StringForm where
  | basic
  | literal
  | basicLines
  | literalLines
  deriving DecidableEq, Repr

/-- The form in which a text with the given traits is written. -/
def StringForm.ofTraits (traits : Traits) : StringForm :=
  let plain := !traits.controls && !traits.backslashes
  if plain && traits.doubles = 0 && !traits.lines then .basic
  else if !traits.controls && traits.singles = 0 && !traits.lines then .literal
  else if plain && traits.doubles ≤ 2 then .basicLines
  else if !traits.controls && traits.singles ≤ 2 then .literalLines
  else if traits.lines then .basicLines
  else .basic

/-- An upper-case hexadecimal digit. -/
def hexDigit (n : Nat) : Char :=
  (Nat.digitChar n).toUpper

/-- A character other than a double quote inside a string with escapes. A string over several lines
    keeps its line feeds. -/
def escapeChar (lines : Bool) (c : Char) : List Char :=
  if c.toNat = 8 then ['\\', 'b']
  else if c = '\t' then ['\\', 't']
  else if c = '\n' then if lines then ['\n'] else ['\\', 'n']
  else if c.toNat = 12 then ['\\', 'f']
  else if c = '\r' then ['\\', 'r']
  else if c = '\\' then ['\\', '\\']
  else if isControl c then
    ['\\', 'u', '0', '0', hexDigit (c.toNat / 16), hexDigit (c.toNat % 16)]
  else [c]

/-- A text inside a string with escapes. Over several lines two double quotes may stand together,
    and `quotes` counts those in front of the text; every further one is escaped. -/
def escapeFrom (lines : Bool) (quotes : Nat) : List Char → List Char
  | [] => []
  | c :: rest =>
    if c = '"' then
      if lines && quotes < 2 then '"' :: escapeFrom lines (quotes + 1) rest
      else '\\' :: '"' :: escapeFrom lines 0 rest
    else
      let escaped := escapeChar lines c
      escaped ++ escapeFrom lines 0 rest

/-- A text between quotes. -/
def between (quotes : String) (text : List Char) : String :=
  quotes ++ String.ofList text ++ quotes

/-- A text over several lines: a line feed that does not belong to it goes first if it has any. -/
def onLines (traits : Traits) (text : List Char) : List Char :=
  if traits.lines then '\n' :: text else text

/-- A text as a string of a form. -/
def StringForm.write (traits : Traits) (text : List Char) : StringForm → String
  | .basic => between "\"" (escapeFrom false 0 text)
  | .literal => between "'" text
  | .basicLines => between "\"\"\"" (onLines traits (escapeFrom true 0 text))
  | .literalLines => between "'''" (onLines traits text)

/-- A text as a string. -/
def quote (text : String) : String :=
  let traits := Traits.of text.toList
  (StringForm.ofTraits traits).write traits text.toList

/-- A text as a key: bare, or else in double quotes, in single ones where that saves escapes. -/
def quoteKey (text : String) : String :=
  let chars := text.toList
  let traits := Traits.of chars
  if !chars.isEmpty && chars.all isKeyChar then text
  else if (traits.backslashes || 0 < traits.doubles) && !traits.controls && !traits.lines &&
      traits.singles = 0 then
    between "'" chars
  else between "\"" (escapeFrom false 0 chars)

/-! ## Sections -/

/-- The line of a row. -/
def row (key value : String) : String :=
  quoteKey key ++ " = " ++ value ++ "\n"

/-- A section with its rows. -/
def sectionText (name : String) (rows : List String) : String :=
  "[" ++ name ++ "]\n" ++ String.join rows

/-- A document of sections, with an empty line between them. -/
def document (sections : List String) : String :=
  String.intercalate "\n" sections

end ResourceModel.Toml

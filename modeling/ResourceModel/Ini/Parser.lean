import ResourceModel.Config.Setting
import ResourceModel.Text.Blank
import ResourceModel.Text.Code

set_option autoImplicit false

/-! # Settings in sections

A reader for lines of keys and values under the headings of sections. Every value is a text. A
backslash gives the next character another meaning wherever it stands. A comment takes a line of
its own, from the first column on. -/

namespace ResourceModel.Ini

/-! ## Runs of characters -/

/-- The character behind the backslash of an escape of one letter. -/
def escaped (c : Char) : Char :=
  match c with
  | '0' => Char.ofNat 0
  | 'a' => Char.ofNat 7
  | 'b' => Char.ofNat 8
  | 't' => '\t'
  | 'r' => '\r'
  | 'n' => '\n'
  | c => c

/-- The character with the code point that four characters spell: hexadecimal digits, in front of
    which a plus sign may stand. -/
def coded? (digits : List Char) : Option Char :=
  let digits := match digits with
    | '+' :: rest => rest
    | digits => digits
  (Decimal.natural? 16 digits).bind Text.ofCode?

/-- Reads a run of characters up to one that ends it; `read` holds its characters so far, the last
    one first, and `toEnd` tells whether the end of the text ends the run too. A backslash at the
    end of a line joins it to the next one. -/
def run? (isEnd : Char → Bool) (toEnd : Bool) (read : List Char) :
    List Char → Option (List Char × List Char)
  | [] => if toEnd then some (read.reverse, []) else none
  | '\\' :: '\n' :: rest => run? isEnd toEnd read rest
  | '\\' :: 'x' :: a :: b :: c :: d :: rest =>
    match coded? [a, b, c, d] with
    | some character => run? isEnd toEnd (character :: read) rest
    | none => none
  | '\\' :: c :: rest => if c = 'x' then none else run? isEnd toEnd (escaped c :: read) rest
  | c :: rest =>
    if c = '\\' then none
    else if isEnd c then some (read.reverse, c :: rest)
    else run? isEnd toEnd (c :: read) rest

/-- Whether a character ends a line. -/
def endsLine (c : Char) : Bool :=
  c = '\n' || c = '\r'

/-- Whether a character divides a key from its value. -/
def endsKey (c : Char) : Bool :=
  c = '=' || c = ':'

/-- Reads up to the end of the line. -/
def line? (text : List Char) : Option (List Char × List Char) :=
  run? endsLine true [] text

/-- Reads what stands up to the closing quote, and the rest of its line. -/
def quoted? (quote : Char) (text : List Char) : Option (List Char × List Char) :=
  (run? (· = quote) false [] text).bind fun (inner, rest) =>
    (line? rest.tail).map fun (outer, rest) => (inner ++ outer, rest)

/-- Reads a value. -/
def value? (text : List Char) : Option (List Char × List Char) :=
  match text.dropWhile fun c => Text.isBlank c && !endsLine c with
  | '"' :: rest => quoted? '"' rest
  | '\'' :: rest => quoted? '\'' rest
  | text => line? text

/-! ## Entries -/

/-- The heading of a section, or a value under a key. -/
inductive Entry where
  | heading (name : String)
  | row (key value : String)
  deriving DecidableEq, Repr

/-- A text without blanks at its ends. -/
def trimmed (text : List Char) : String :=
  String.ofList (Text.trim text)

/-- Reads a heading behind its opening bracket. -/
def heading? (text : List Char) : Option (Entry × List Char) :=
  (run? (· = ']') false [] text).map fun (name, rest) => (.heading (trimmed name), rest.tail)

/-- Reads a key and its value. There is no empty key. -/
def row? (text : List Char) : Option (Entry × List Char) :=
  (run? endsKey false [] text).bind fun (key, rest) =>
    if trimmed key = "" then none
    else (value? rest.tail).map fun (value, rest) => (.row (trimmed key) (trimmed value), rest)

/-- Reads the entries of a text; `first` tells whether the text begins in the first column. The fuel
    is more than the length of the text. -/
def entriesFrom : Nat → Bool → List Char → Option (List Entry)
  | 0, _, _ => none
  | _, _, [] => some []
  | fuel + 1, first, c :: rest =>
    if Text.isBlank c then entriesFrom fuel (c = '\n') rest
    else if c = ';' ∨ c = '#' then
      if first then entriesFrom fuel true (rest.dropWhile (· ≠ '\n')).tail else none
    else
      match if c = '[' then heading? rest else row? (c :: rest) with
      | some (entry, rest) => (entriesFrom fuel false rest).map (entry :: ·)
      | none => none

/-- The entries of a text. -/
def entries? (text : String) : Option (List Entry) :=
  let chars := text.toList
  entriesFrom (chars.length + 1) true chars

/-! ## Settings -/

/-- The rows in front of the first heading, and the tables of the sections. -/
structure Sections where
  general : List (String × Setting)
  named : List (String × Setting)

/-- The sections with an entry in front of them. -/
def Sections.before (sections : Sections) : Entry → Sections
  | .heading name => ⟨[], (name, .table (Table.ofRows sections.general)) :: sections.named⟩
  | .row key value => { sections with general := (key, .text value) :: sections.general }

/-- The rows of the settings that a text gives. Of two sections of one name, and of two rows of one
    key in a section, the later one counts. -/
def parse (text : String) : Option (List (String × Setting)) :=
  (entries? text).map fun entries =>
    let sections : Sections := entries.foldr (fun entry sections => sections.before entry) ⟨[], []⟩
    Table.ofRows (sections.general ++ sections.named)

end ResourceModel.Ini

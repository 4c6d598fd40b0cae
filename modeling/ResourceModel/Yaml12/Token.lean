import ResourceModel.Text.Code
import ResourceModel.Yaml.Token
import ResourceModel.Yaml12.Scalar

set_option autoImplicit false

/-! # Tokens of a text of YAML 1.2

A text is cut into tokens. Blocks are told by their columns; a column further in may be required of
what stands behind a key or a dash before it is known whether a block begins there. -/

namespace ResourceModel.Yaml12

open Yaml (Token KeyPlace)

/-- An enclosing column, and whether the block inside it is closed by a token. -/
structure Level where
  column : Int
  isBlock : Bool

/-- The state between two tokens. -/
structure Scan where
  cursor : Cursor
  /-- The column of the current block. -/
  indent : Int
  /-- The enclosing columns, the innermost first. -/
  outer : List Level
  /-- The number of open flow collections. -/
  flow : Nat
  /-- The places where a key may have begun: one for each open flow collection and one for blocks,
      the innermost first. -/
  keys : List (Option KeyPlace)
  keyAllowed : Bool
  /-- Where a colon stands for a value whatever follows it. -/
  adjacentAt : Nat
  /-- Whether a mapping in braces has begun. -/
  inBraces : Bool
  /-- Whether a pair in brackets is open that is a mapping without braces. -/
  inPair : Bool
  tokens : Array Token

namespace Scan

/-- The state at the start of a text. -/
def start (text : List Char) : Scan :=
  ⟨.start text, -1, [], 0, [none], true, 0, false, false, #[]⟩

/-- The state with a token more. -/
def push (s : Scan) (token : Token) : Scan :=
  { s with tokens := s.tokens.push token }

/-- The state with a token put in front of the token with the given number. -/
def insert (s : Scan) (number : Nat) (token : Token) : Scan :=
  { s with tokens := s.tokens.insertIdxIfInBounds number token }

/-- The state behind the given number of characters. -/
def skip (s : Scan) (count : Nat) : Scan :=
  { s with cursor := s.cursor.skip count }

/-- The state with or without permission to begin a key. -/
def allow (s : Scan) (allowed : Bool) : Scan :=
  { s with keyAllowed := allowed }

/-- The state behind blanks and a comment; none if a comment stands behind something else. -/
def padded? (s : Scan) : Option Scan :=
  s.cursor.padded?.map fun cursor => { s with cursor }

/-! ## Blocks -/

/-- Closes enclosing blocks as long as they stand right of a column. -/
def closeFrom (tokens : Array Token) (indent column : Int) :
    List Level → Array Token × Int × List Level
  | [] => (tokens, indent, [])
  | level :: outer =>
    if column < indent then
      closeFrom (if level.isBlock then tokens.push .blockEnd else tokens) level.column column outer
    else (tokens, indent, level :: outer)

/-- Closes the blocks that stand right of a column. -/
def closeBlocks (s : Scan) (column : Int) : Scan :=
  if s.flow = 0 then
    let (tokens, indent, outer) := closeFrom s.tokens s.indent column s.outer
    { s with tokens, indent, outer }
  else s

/-- Opens a block in a column right of the current block; its token stands in front of the token
    with the given number. A column that was required before takes its place. -/
def openBlock (s : Scan) (column number : Nat) (token : Token) : Scan :=
  if s.flow ≠ 0 then s
  else
    let s := match s.outer with
      | ⟨outer, false⟩ :: rest =>
        if s.indent ≤ (column : Int) then { s with indent := outer, outer := rest } else s
      | _ => s
    if s.indent < (column : Int) then
      { s.insert number token with indent := column, outer := ⟨s.indent, true⟩ :: s.outer }
    else s

/-- Requires a column further in, until it is known whether a block begins there. -/
def requireColumn (s : Scan) : Scan :=
  match s.outer with
  | ⟨_, true⟩ :: _ =>
    if s.flow = 0 then { s with indent := s.indent + 1, outer := ⟨s.indent, false⟩ :: s.outer }
    else s
  | _ => s

/-- Goes back to the column of the current block. -/
def releaseColumn (s : Scan) : Scan :=
  match s.outer with
  | ⟨outer, false⟩ :: rest => { s with indent := outer, outer := rest }
  | _ => s

/-! ## Keys -/

/-- Forgets the place of a key in the current collection; none if a key had to be there. -/
def dropKey? (s : Scan) : Option Scan :=
  if s.keys.head?.join.any (·.required) then none else some { s with keys := none :: s.keys.drop 1 }

/-- Notes that a key may begin here, if that is allowed. -/
def noteKey (s : Scan) : Scan :=
  if s.keyAllowed then
    let c := s.cursor
    let required := s.flow = 0 && s.indent == (c.column : Int) && s.outer.head?.any (·.isBlock)
    let place : KeyPlace := ⟨required, s.tokens.size, c.index, c.line, c.column⟩
    { s with keys := some place :: s.keys.drop 1 }
  else s

/-- Whether a key that began at a place can no longer end here: it is on another line or too
    long. -/
def isStale (c : Cursor) (place : KeyPlace) : Bool :=
  place.line < c.line || place.index + 1024 < c.index

/-- Forgets the places of keys that can no longer end here; none if one had to be there. Inside flow
    collections a key may always end. -/
def dropStale? (s : Scan) : Option Scan :=
  if s.flow ≠ 0 then some s
  else
    let stale (place : Option KeyPlace) : Bool := place.any (isStale s.cursor)
    if s.keys.any fun place => stale place && place.any (·.required) then none
    else some { s with keys := s.keys.map fun place => if stale place then none else place }

/-! ## Gaps between tokens -/

/-- Skips the gap before the next token: blanks, comments and line ends. A tab left of a block may
    only stand on an empty line. The fuel is more than the length of the text. -/
def skipGap? : Nat → Scan → Option Scan
  | 0, s => some s
  | fuel + 1, s =>
    match s.cursor.rest with
    | [] => some s
    | x :: _ =>
      if x = '\t' && !s.outer.isEmpty && s.cursor.fresh && s.cursor.isLeftOf s.indent then
        match s.padded? with
        | some s => if atLineEnd s.cursor.rest then skipGap? fuel s else none
        | none => none
      else if isBlank x then skipGap? fuel { s with cursor := s.cursor.skipBlanks 1 }
      else if isBreak x then
        let s := { s with cursor := s.cursor.skipBreak }
        skipGap? fuel (if s.flow = 0 then s.allow true else s)
      else if x = '#' then skipGap? fuel { s with cursor := s.cursor.skipLine }
      else some s

/-- Skips spaces, line ends and comments behind the mark of a key, of which there has to be one. The
    fuel is more than the length of the text. -/
def skipKeyGap? : Nat → Bool → Scan → Option Scan
  | 0, found, s => if found then some s else none
  | fuel + 1, found, s =>
    match s.cursor.rest with
    | [] => if found then some s else none
    | x :: _ =>
      if x = ' ' then skipKeyGap? fuel true { s with cursor := s.cursor.skipBlanks 1 }
      else if isBreak x then
        let s := { s with cursor := s.cursor.skipBreak }
        skipKeyGap? fuel true (if s.flow = 0 then s.allow true else s)
      else if x = '#' then skipKeyGap? fuel found { s with cursor := s.cursor.skipLine }
      else if found then some s
      else none

/-! ## Directives and tags -/

/-- Whether a character may stand in an address. -/
def isAddressChar (c : Char) : Bool :=
  c.isAlphanum || c = '-' || "#;/?:@&=+$,_.!~*'()[]%".toList.contains c

/-- Whether a character may stand in a tag. -/
def isTagChar (c : Char) : Bool :=
  isAddressChar c && !isFlowMark c && c ≠ '!'

/-- The number of bytes of a character that begins with a byte. -/
def byteCount? (byte : Nat) : Option Nat :=
  if byte < 0x80 then some 1
  else if byte / 32 = 6 then some 2
  else if byte / 16 = 14 then some 3
  else if byte / 8 = 30 then some 4
  else none

/-- Reads so many percent-escapes. The bytes are put together as they are. -/
def escapedBytes? : Nat → Nat → List Char → Option (Nat × List Char)
  | 0, code, text => some (code, text)
  | count + 1, code, '%' :: a :: b :: rest =>
    match Text.hexDigit? a, Text.hexDigit? b with
    | some high, some low =>
      let byte := high * 16 + low
      if byte / 64 = 2 then escapedBytes? count (code * 256 + byte) rest else none
    | _, _ => none
  | _ + 1, _, _ => none

/-- Reads the character that percent-escapes stand for. -/
def escaped? : List Char → Option (Char × List Char)
  | '%' :: a :: b :: rest =>
    match Text.hexDigit? a, Text.hexDigit? b with
    | some high, some low =>
      let byte := high * 16 + low
      match byteCount? byte with
      | none => none
      | some count =>
        match escapedBytes? (count - 1) byte rest with
        | some (code, rest) => (Text.ofCode? code).map fun x => (x, rest)
        | none => none
    | _, _ => none
  | _ => none

/-- Reads characters of a class with percent-escapes decoded. The fuel is at least the length of the
    text. -/
def escapedRun? (p : Char → Bool) : Nat → List Char → Option (List Char × List Char)
  | 0, text => some ([], text)
  | _, [] => some ([], [])
  | fuel + 1, c :: rest =>
    if !p c then some ([], c :: rest)
    else if c = '%' then
      match escaped? (c :: rest) with
      | some (x, rest) => (escapedRun? p fuel rest).map fun read => (x :: read.1, read.2)
      | none => none
    else (escapedRun? p fuel rest).map fun read => (c :: read.1, read.2)

/-- Reads characters of a class from a position. -/
def addressRun? (p : Char → Bool) (c : Cursor) : Option (List Char × Cursor) :=
  (escapedRun? p c.rest.length c.rest).map fun read =>
    (read.1, c.skip (c.rest.length - read.2.length))

/-- Reads a number of a directive: at most nine digits. -/
def directiveNumber? (c : Cursor) : Option (Nat × Cursor) :=
  let digits := c.rest.takeWhile Char.isDigit
  if digits.isEmpty || 9 < digits.length then none
  else some ((Decimal.natural? 10 digits).getD 0, c.skip digits.length)

/-- Reads the version that a directive names. -/
def version? (c : Cursor) : Option (Token × Cursor) := do
  let (major, c) ← directiveNumber? (c.skipBlanks (c.rest.takeWhile isBlank).length)
  if c.next? = some '.' then
    let (minor, c) ← directiveNumber? (c.skip 1)
    return (.versionDirective major minor, c)
  else none

/-- Reads the handle of a tag: marks around a word, or a mark and a word. -/
def tagHandle? (c : Cursor) : Option (List Char × Cursor) :=
  match c.rest with
  | '!' :: rest =>
    let word := rest.takeWhile isWordChar
    let closed := (rest.drop word.length).head? == some '!'
    let handle := '!' :: word ++ if closed then ['!'] else []
    some (handle, c.skip handle.length)
  | _ => none

/-- Reads what a handle stands for. -/
def tagLead? (c : Cursor) : Option (List Char × Cursor) :=
  match c.rest with
  | '!' :: _ => (addressRun? isAddressChar (c.skip 1)).map fun read => ('!' :: read.1, read.2)
  | x :: _ => if isTagChar x then addressRun? isAddressChar c else none
  | [] => none

/-- Reads the tag that a directive declares. -/
def tagDirective? (c : Cursor) : Option (Token × Cursor) := do
  let (handle, c) ← tagHandle? (c.skipBlanks (c.rest.takeWhile isBlank).length)
  if handle = ['!'] ∨ (1 < handle.length ∧ handle.getLast? = some '!') then
    let (lead, c) ← tagLead? (c.skipBlanks (c.rest.takeWhile isBlank).length)
    if atGap c.rest then some (.tagDirective handle lead, c) else none
  else none

/-- Reads a directive from its percent sign. One that is not known says nothing. -/
def directive? (s : Scan) : Option Scan := do
  let c := s.cursor.skip 1
  let name := c.rest.takeWhile isWordChar
  let c := c.skip name.length
  if name.isEmpty || !atGap c.rest then none
  else
    let (token, c) ←
      if name = "YAML".toList then version? c
      else if name = "TAG".toList then tagDirective? c
      else some (.tagDirective [] [], c.skipLine)
    let c ← c.padded?
    if atLineEnd c.rest then some { s.push token with cursor := c.skipBreak } else none

/-- Reads a tag from its mark. -/
def tag? (s : Scan) : Option Scan := do
  let (token, c) ←
    if (s.cursor.rest.drop 1).head? = some '<' then
      let (suffix, c) ← addressRun? isAddressChar (s.cursor.skip 2)
      if c.next? = some '>' then some (Token.tag [] suffix, c.skip 1) else none
    else
      let (handle, c) ← tagHandle? s.cursor
      let (rest, c) ← addressRun? isTagChar c
      if 1 < handle.length ∧ handle.getLast? = some '!' then
        if rest.isEmpty then none else some (Token.tag handle rest, c)
      else
        let suffix := handle.drop 1 ++ rest
        if suffix.isEmpty then some (Token.tag [] ['!'], c) else some (Token.tag ['!'] suffix, c)
  if atGap c.rest || (s.flow ≠ 0 && atFlowMark c.rest) then some { s.push token with cursor := c }
  else none

/-- Whether a character may stand in the name of an anchor. -/
def isAnchorChar (c : Char) : Bool :=
  !isBlank c && !isBreak c && !isFlowMark c && c.toNat ≠ 0xFEFF

/-! ## Marks -/

/-- Ends a mapping without braces. -/
def endPair (s : Scan) : Scan :=
  if s.inPair then { s.push .flowMappingEnd with inPair := false, inBraces := false } else s

/-- The greatest number of open flow collections. -/
def flowLimit : Nat := 255

/-- The state behind the start of a flow collection. -/
def openFlow? (s : Scan) (braces : Bool) : Option Scan :=
  let s := s.noteKey.requireColumn
  if s.flow < flowLimit then
    let s := { s with keys := none :: s.keys, flow := s.flow + 1, inBraces := s.inBraces || braces }
    ((s.allow true).skip 1).padded?.map
      (·.push (if braces then .flowMappingStart else .flowSequenceStart))
  else none

/-- The state behind the end of a flow collection. -/
def closeFlow? (s : Scan) (token : Token) : Option Scan := do
  let s ← s.dropKey?
  let s := if s.flow = 0 then s else { s with keys := s.keys.drop 1, flow := s.flow - 1 }
  let s ← ((s.allow false).endPair.skip 1).padded?
  return { s with adjacentAt := if s.flow = 0 then s.adjacentAt else s.cursor.index }.push token

/-- The state behind a comma between items. -/
def flowEntry? (s : Scan) : Option Scan := do
  let s ← s.dropKey?
  return (← ((s.allow true).endPair.skip 1).padded?).push .flowEntry

/-- The state behind a dash that begins an entry. -/
def blockEntry? (s : Scan) : Option Scan :=
  if s.flow ≠ 0 || !s.keyAllowed then none
  else
    let column := s.cursor.column
    let s := (s.skip 1).openBlock column s.tokens.size .blockSequenceStart
    match s.cursor.skipPadding true with
    | none => none
    | some (c, padding) =>
      -- an entry inside an entry is not indented by tabs
      if padding.tabs && c.next? = some '-' && atGap (c.rest.drop 1) then none
      else
        let s := { s with cursor := c }
        let s := if c.next?.any fun x => isBreak x || isFlowMark x then s.requireColumn else s
        s.dropKey?.map fun s => (s.allow true).push .blockEntry

/-- The state behind the mark of a key. -/
def key? (fuel : Nat) (s : Scan) : Option Scan :=
  if s.flow = 0 ∧ !s.keyAllowed then none
  else
    let s :=
      if s.flow = 0 then s.openBlock s.cursor.column s.tokens.size .blockMappingStart
      else { s with inBraces := true }
    match s.dropKey? with
    | none => none
    | some s =>
      match skipKeyGap? fuel false ((s.allow (s.flow = 0)).skip 1) with
      | some s => if s.cursor.next? = some '\t' then none else some (s.push .key)
      | none => none

/-- The state behind a colon that stands for a value. Tabs alone do not divide it from a word. -/
def value? (s : Scan) : Option Scan := do
  let colon := s.cursor
  let pair := s.flow ≠ 0 && !s.inBraces
  let s : Scan := { s.skip 1 with inPair := pair }
  let s ←
    if s.cursor.next? = some '\t' then
      let (c, padding) ← s.cursor.skipPadding true
      if !padding.spaces && c.next?.any isWordChar then none else some { s with cursor := c }
    else some s
  match s.keys with
  | some place :: keys =>
    -- the key of a pair without braces stands on the line of its colon
    if pair && place.line < colon.line then none
    else
      let s := s.insert place.tokens .key
      let s := if pair then s.insert place.tokens .flowMappingStart else s
      let s := (s.openBlock place.column place.tokens .blockMappingStart).requireColumn
      return ({ s with keys := none :: keys }.allow false).push .value
  | _ =>
    let s := if pair then s.push .flowMappingStart else s
    if s.flow = 0 then
      if s.keyAllowed then
        let s := (s.openBlock colon.column s.tokens.size .blockMappingStart).requireColumn
        return (s.allow true).push .value
      else none
    else return (s.requireColumn.allow false).push .value

/-- The state behind a colon in a flow collection. Without a gap before it a collection may only
    follow where a value may follow at once. -/
def flowValue? (s : Scan) (rest : List Char) : Option Scan :=
  if s.cursor.index ≠ s.adjacentAt && rest.head?.any (fun c => c = '[' || c = '{') then none
  else s.value?

/-! ## Scalars -/

/-- The state behind a plain scalar. -/
def plain? (fuel : Nat) (s : Scan) : Option Scan :=
  let s := (s.noteKey.allow false).releaseColumn
  let flow : Bool := s.flow ≠ 0
  if flow && s.cursor.isLeftOf (s.indent + 1) then none
  else
    (readPlain flow (s.indent + 1) fuel s.cursor ⟨[], false, 0⟩).map fun read =>
      let s := { s with cursor := read.cursor }
      (if read.cursor.fresh then s.allow true else s).push (.scalar read.text true)

/-- The state behind a scalar in quotes. -/
def quoted? (fuel : Nat) (s : Scan) (single : Bool) : Option Scan := do
  let s := s.noteKey.allow false
  let read ← readQuoted single (s.flow ≠ 0) s.indent fuel s.cursor
  let s ← skipGap? fuel { s with cursor := read.cursor }
  return { s with adjacentAt := s.cursor.index }.push (.scalar read.text false)

/-- The state behind a block of lines. -/
def block? (fuel : Nat) (s : Scan) (literal : Bool) : Option Scan :=
  let s := (s.noteKey.allow true).releaseColumn
  (readBlock literal s.indent fuel (s.cursor.skip 1)).map fun read =>
    { s with cursor := read.cursor }.push (.scalar read.text false)

/-- The state behind an anchor or an alias. -/
def anchor? (s : Scan) (token : List Char → Token) : Option Scan :=
  let s := s.noteKey.allow false
  let name := (s.cursor.rest.drop 1).takeWhile isAnchorChar
  if name.isEmpty then none else some ((s.skip (name.length + 1)).push (token name))

/-! ## The whole text -/

/-- The state behind a document marker or a directive, which end every block. -/
def betweenDocuments? (s : Scan) : Option Scan :=
  (s.closeBlocks (-1)).dropKey?.map (·.allow false)

/-- The state behind the marker that ends a document; nothing else may stand on its line. -/
def documentEnd? (s : Scan) : Option Scan := do
  let s ← s.betweenDocuments?
  let s ← ((s.skip 3).push .documentEnd).padded?
  if atLineEnd s.cursor.rest then some s else none

/-- The state behind the next token; none if no token begins here. The text is not at its end; the
    fuel is more than its length. -/
def next? (fuel : Nat) (s : Scan) (c : Char) (rest : List Char) : Option Scan :=
  let first : Bool := s.cursor.column = 0
  let flow : Bool := s.flow ≠ 0
  if first && c = '%' then s.betweenDocuments?.bind directive?
  else if first && beginsMarker '-' (c :: rest) then
    s.betweenDocuments?.map fun s => (s.skip 3).push .documentStart
  else if first && beginsMarker '.' (c :: rest) then s.documentEnd?
  else if s.cursor.isLeftOf s.indent then none
  else if c = '[' ∨ c = '{' then s.openFlow? (c = '{')
  else if c = ']' then s.closeFlow? .flowSequenceEnd
  else if c = '}' then s.closeFlow? .flowMappingEnd
  else if c = ',' then s.flowEntry?
  else if c = '-' ∧ atGap rest then s.blockEntry?
  else if c = '?' ∧ atGap rest then s.key? fuel
  else if c = ':' ∧ atGap rest then s.value?
  else if c = ':' && flow && (atFlowMark rest || s.cursor.index = s.adjacentAt) then
    s.flowValue? rest
  else if c = '*' then s.anchor? .alias
  else if c = '&' then s.anchor? .anchor
  else if c = '!' then (s.noteKey.allow false).tag?
  else if (c = '|' || c = '>') && !flow then s.block? fuel (c = '|')
  else if c = '\'' ∨ c = '"' then s.quoted? fuel (c = '\'')
  else if c = '%' ∨ c = '@' ∨ c.toNat = 0x60 then none
  else s.plain? fuel

/-- The state at the end of the text. -/
def finish? (s : Scan) : Option Scan :=
  if s.keys.any fun place => place.any (·.required) then none
  else some ((s.closeBlocks (-1)).allow false)

/-- Reads tokens up to the end of the text. Each takes at least one character, so fuel that is more
    than the number of characters plus one is so for each of them. -/
def run : Nat → Scan → Option Scan
  | 0, _ => none
  | fuel + 1, s =>
    match (skipGap? (fuel + 1) s).bind dropStale? with
    | none => none
    | some s =>
      let s := s.closeBlocks s.cursor.column
      match s.cursor.rest with
      | [] => s.finish?
      | c :: rest =>
        match s.next? fuel c rest with
        | some s => run fuel s
        | none => none

end Scan

/-- The tokens of a text, which ends at a zero character; none if no token begins somewhere. -/
def tokens? (text : String) : Option (List Token) :=
  let chars := text.toList.takeWhile fun c => c.toNat ≠ 0
  (Scan.run (chars.length + 2) (.start chars)).map fun s => s.tokens.toList

end ResourceModel.Yaml12

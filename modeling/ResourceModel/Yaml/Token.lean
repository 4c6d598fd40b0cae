import ResourceModel.Yaml.Scalar

set_option autoImplicit false

/-! # Tokens of a YAML text

A text is cut into tokens. The structure that indentation expresses is made explicit by tokens for
the starts and ends of blocks. A key on one line is recognised by the colon behind it, so the token
that announces a key is put in front of tokens that were already found. -/

namespace ResourceModel.Yaml

/-- A token. -/
inductive Token where
  | versionDirective (major minor : Nat)
  | tagDirective (handle lead : List Char)
  | documentStart
  | documentEnd
  | blockSequenceStart
  | blockMappingStart
  | blockEnd
  | flowSequenceStart
  | flowSequenceEnd
  | flowMappingStart
  | flowMappingEnd
  | blockEntry
  | flowEntry
  | key
  | value
  | alias (name : List Char)
  | anchor (name : List Char)
  | tag (handle suffix : List Char)
  | scalar (text : List Char) (plain : Bool)
  deriving DecidableEq, Repr

/-- A place where a key may have begun: whether a key has to be there, the number of tokens before
    it, and its position. -/
structure KeyPlace where
  required : Bool
  tokens : Nat
  index : Nat
  line : Nat
  column : Nat

/-- The state between two tokens: the position, the column of the current block and those of the
    enclosing ones, the number of open flow collections, the places where a key may have begun (one
    for each open flow collection, the innermost first), whether a key may begin here, and the
    tokens so far. -/
structure Scan where
  cursor : Cursor
  indent : Int
  outer : List Int
  flow : Nat
  keys : List (Option KeyPlace)
  keyAllowed : Bool
  tokens : Array Token

namespace Scan

/-- The state at the start of a text. -/
def start (text : List Char) : Scan :=
  ⟨.start text, -1, [], 0, [none], true, #[]⟩

/-- The state with a token more. -/
def push (s : Scan) (token : Token) : Scan :=
  { s with tokens := s.tokens.push token }

/-- The state with a token put in front of the token with the given number. -/
def insert (s : Scan) (number : Nat) (token : Token) : Scan :=
  { s with tokens := s.tokens.insertIdxIfInBounds number token }

/-- The state behind the given number of characters. -/
def skip (s : Scan) (count : Nat) : Scan :=
  { s with cursor := s.cursor.skip count }

/-- The state with or without permission to begin a key. -/
def allow (s : Scan) (allowed : Bool) : Scan :=
  { s with keyAllowed := allowed }

/-! ## Blocks -/

/-- Opens a block in a column right of the current block; its token stands in front of the token
    with the given number. -/
def openBlock (s : Scan) (column number : Nat) (token : Token) : Scan :=
  if s.flow = 0 ∧ s.indent < column then
    { s.insert number token with indent := column, outer := s.indent :: s.outer }
  else s

/-- Closes enclosing blocks as long as they stand right of a column. -/
def closeFrom (tokens : Array Token) (indent column : Int) : List Int → Array Token × Int × List Int
  | [] => (tokens, indent, [])
  | next :: outer =>
    if column < indent then closeFrom (tokens.push .blockEnd) next column outer
    else (tokens, indent, next :: outer)

/-- Closes the blocks that stand right of a column. -/
def closeBlocks (s : Scan) (column : Int) : Scan :=
  if s.flow = 0 then
    let (tokens, indent, outer) := closeFrom s.tokens s.indent column s.outer
    { s with tokens := tokens, indent := indent, outer := outer }
  else s

/-! ## Keys -/

/-- Forgets the place of a key in the current collection; none if a key had to be there. -/
def dropKey? (s : Scan) : Option Scan :=
  match s.keys with
  | some place :: keys => if place.required then none else some { s with keys := none :: keys }
  | _ => some s

/-- Notes that a key may begin here, if that is allowed. -/
def noteKey? (s : Scan) : Option Scan :=
  if s.keyAllowed then
    let c := s.cursor
    let required := s.flow = 0 && s.indent == (c.column : Int)
    let place : KeyPlace := ⟨required, s.tokens.size, c.index, c.line, c.column⟩
    s.dropKey?.map fun s => { s with keys := some place :: s.keys.drop 1 }
  else some s

/-- Whether a key that began at a place can no longer end here: it is on another line or too
    long. -/
def KeyPlace.isStale (place : KeyPlace) (c : Cursor) : Bool :=
  place.line < c.line || place.index + 1024 < c.index

/-- Forgets the places of keys that can no longer end here; none if one had to be there. -/
def dropStale? (s : Scan) : Option Scan :=
  let stale (place : Option KeyPlace) : Bool := place.any fun p => KeyPlace.isStale p s.cursor
  if s.keys.any fun place => stale place && place.any (·.required) then none
  else some { s with keys := s.keys.map fun place => if stale place then none else place }

/-! ## Single tokens -/

/-- Skips the gap before the next token: blanks, comments, line ends, and a byte order mark at the
    start of a line, which takes a column. A tab is part of the gap where no key may begin. The
    fuel is at least the length of the text. -/
def skipGap : Nat → Scan → Scan
  | 0, s => s
  | fuel + 1, s =>
    let tabs := s.flow ≠ 0 || !s.keyAllowed
    let mark := if s.cursor.column = 0 ∧ s.cursor.next? = some (Char.ofNat 0xFEFF) then 1 else 0
    let c := (s.cursor.skip mark).skipWhile fun x => x = ' ' || (tabs && x = '\t')
    let c := if c.next? = some '#' then c.skipWhile (fun x => !isBreak x) else c
    if !c.rest.isEmpty && atLineEnd c.rest then
      let s := { s with cursor := c.skipLineEnd }
      -- outside flow collections a new line may begin with a key
      skipGap fuel (if s.flow = 0 then s.allow true else s)
    else { s with cursor := c }

/-- A number in a directive: at most nine digits. -/
def directiveNumber? (c : Cursor) : Option (Nat × Cursor) :=
  let digits := c.rest.takeWhile Char.isDigit
  if digits.isEmpty || 9 < digits.length then none
  else some (digits.foldl (fun n d => n * 10 + (d.toNat - '0'.toNat)) 0, c.skip digits.length)

/-- The handle of a tag: marks around a word, or a mark and a word. -/
def tagHandle? (c : Cursor) : Option (List Char × Cursor) :=
  match c.rest with
  | '!' :: rest =>
    let word := rest.takeWhile isWordChar
    let closed := (rest.drop word.length).head? == some '!'
    let handle := '!' :: word ++ if closed then ['!'] else []
    some (handle, c.skip handle.length)
  | _ => none

/-- Whether a character may stand in a tag; some only in one between angle brackets or in a
    directive. -/
def isTagChar (wide : Bool) (c : Char) : Bool :=
  isWordChar c || ";/?:@&=+$.!~*'()%".toList.contains c || (wide && (c = ',' || c = '[' || c = ']'))

/-- The characters of a tag, with percent-escapes decoded; none if the escapes are malformed. -/
def tagText? (text : List Char) : Option (List Char) :=
  let rec escapes : List Char → Bool
    | '%' :: a :: b :: rest =>
      (Text.hexDigit? a).isSome && (Text.hexDigit? b).isSome && escapes rest
    | '%' :: _ => false
    | _ :: rest => escapes rest
    | [] => true
  if escapes text then
    (String.fromUTF8? ⟨(Url.decodeBytes text).toArray⟩).map String.toList
  else none

/-- Reads the rest of a tag. -/
def tagRest? (wide : Bool) (c : Cursor) : Option (List Char × Cursor) :=
  let text := c.rest.takeWhile (isTagChar wide)
  (tagText? text).map fun decoded => (decoded, c.skip text.length)

/-- Reads a directive from its percent sign. -/
def directive? (s : Scan) : Option Scan := do
  let c := s.cursor.skip 1
  let name := c.rest.takeWhile isWordChar
  let c := c.skip name.length
  if name.isEmpty || !atGap c.rest then none
  else
    let c := c.skipWhile isBlank
    if name = "YAML".toList then
      let (major, c) ← directiveNumber? c
      if c.next? = some '.' then
        let (minor, c) ← directiveNumber? (c.skip 1)
        return { s.push (.versionDirective major minor) with cursor := ← c.endOfLine? }
      else none
    else if name = "TAG".toList then
      let (handle, c) ← tagHandle? c
      if (handle.getLast? = some '!') ∧ c.rest.head?.any isBlank then
        let (lead, c) ← tagRest? true (c.skipWhile isBlank)
        if lead.isEmpty || !atGap c.rest then none
        else return { s.push (.tagDirective handle lead) with cursor := ← c.endOfLine? }
      else none
    else none

/-- Reads a tag from its mark. -/
def tag? (s : Scan) : Option Scan := do
  let (token, c) ←
    if (s.cursor.rest.drop 1).head? = some '<' then
      let (suffix, c) ← tagRest? true (s.cursor.skip 2)
      if suffix.isEmpty || c.next? ≠ some '>' then none
      else some (Token.tag [] suffix, c.skip 1)
    else
      let (handle, c) ← tagHandle? s.cursor
      let (rest, c) ← tagRest? false c
      if handle.length > 1 ∧ handle.getLast? = some '!' then
        if rest.isEmpty then none else some (Token.tag handle rest, c)
      else
        let suffix := handle.drop 1 ++ rest
        if suffix.isEmpty then some (Token.tag [] ['!'], c) else some (Token.tag ['!'] suffix, c)
  let ends := atGap c.rest || (s.flow ≠ 0 && c.next? == some ',')
  if ends then some { s.push token with cursor := c } else none

/-- Reads the name of an anchor or an alias from behind its mark. -/
def anchorName? (c : Cursor) : Option (List Char × Cursor) :=
  let name := c.rest.takeWhile isWordChar
  let c := c.skip name.length
  let ends := atGap c.rest || match c.next? with
    | some x => "?:,]\x7d%@".toList.contains x || x.toNat = 0x60
    | none => true
  if name.isEmpty || !ends then none else some (name, c)

/-- The state behind a colon that stands for a value. -/
def value? (s : Scan) : Option Scan :=
  match s.keys with
  | some place :: keys =>
    -- that it was a key shows only now, so its token goes in front of what was found since
    let s := s.insert place.tokens .key
    let s := s.openBlock place.column place.tokens .blockMappingStart
    some (({ s with keys := none :: keys }.allow false).skip 1 |>.push .value)
  | _ =>
    if s.flow = 0 then
      if s.keyAllowed then
        let s := s.openBlock s.cursor.column s.tokens.size .blockMappingStart
        some ((s.allow true).skip 1 |>.push .value)
      else none
    else some ((s.allow false).skip 1 |>.push .value)

/-- The state behind a mark that begins an entry or a key of a block. -/
def blockMark? (s : Scan) (start mark : Token) : Option Scan :=
  if s.flow = 0 ∧ !s.keyAllowed then none
  else (s.openBlock s.cursor.column s.tokens.size start).dropKey?.map fun s => (s.skip 1).push mark

/-- The state behind a scalar that may be a key. -/
def scalar? (s : Scan) (read : Cursor → Option (ScalarRead × Bool)) (plain : Bool) :
    Option Scan := do
  let s ← s.noteKey?
  let (scalar, broken) ← read s.cursor
  return { (s.allow broken).push (.scalar scalar.text plain) with cursor := scalar.cursor }

/-- The state behind a document marker or a directive, which end every block. -/
def betweenDocuments? (s : Scan) : Option Scan :=
  -- every block stands right of this column
  (s.closeBlocks (-1)).dropKey?.map (·.allow false)

/-- The marks that cannot begin a plain scalar. -/
def indicators : List Char :=
  ['-', '?', ':', ',', '[', ']', '{', '}', '#', '&', '*', '!', '|', '>', '\'', '"', '%', '@',
    Char.ofNat 0x60]

/-- Whether a plain scalar begins with a character, given what follows it. -/
def beginsPlain (flow : Nat) (c : Char) (rest : List Char) : Bool :=
  (!isBlank c && !isBreak c && !indicators.contains c) ||
    (c = '-' && match rest with
      | d :: _ => !isBlank d
      | [] => true) ||
    (flow = 0 && (c = '?' || c = ':') && !atGap rest)

/-- The state behind the next token; none if no token begins here. The text is not at its end; the
    fuel is more than its length. -/
def next? (fuel : Nat) (s : Scan) (c : Char) (rest : List Char) : Option Scan :=
  if s.cursor.column = 0 ∧ c = '%' then s.betweenDocuments?.bind directive?
  else if s.cursor.atMarker '-' then
    s.betweenDocuments?.map fun s => (s.skip 3).push .documentStart
  else if s.cursor.atMarker '.' then
    s.betweenDocuments?.map fun s => (s.skip 3).push .documentEnd
  else if c = '[' ∨ c = '{' then
    s.noteKey?.map fun s =>
      let s := { s with keys := none :: s.keys, flow := s.flow + 1 }
      ((s.allow true).skip 1).push (if c = '[' then .flowSequenceStart else .flowMappingStart)
  else if c = ']' ∨ c = '}' then
    s.dropKey?.map fun s =>
      let s := if s.flow = 0 then s else { s with keys := s.keys.drop 1, flow := s.flow - 1 }
      ((s.allow false).skip 1).push (if c = ']' then .flowSequenceEnd else .flowMappingEnd)
  else if c = ',' then s.dropKey?.map fun s => ((s.allow true).skip 1).push .flowEntry
  else if c = '-' ∧ atGap rest then
    (s.blockMark? .blockSequenceStart .blockEntry).map (·.allow true)
  else if c = '?' ∧ (s.flow ≠ 0 ∨ atGap rest) then
    (s.blockMark? .blockMappingStart .key).map fun s => s.allow (s.flow = 0)
  else if c = ':' ∧ (s.flow ≠ 0 ∨ atGap rest) then s.value?
  else if c = '*' ∨ c = '&' then do
    let s ← s.noteKey?
    let (name, cursor) ← anchorName? (s.cursor.skip 1)
    let token := if c = '*' then Token.alias name else Token.anchor name
    return { (s.allow false).push token with cursor := cursor }
  else if c = '!' then do (← s.noteKey?).allow false |>.tag?
  else if (c = '|' ∨ c = '>') ∧ s.flow = 0 then do
    let s ← s.dropKey?
    let read ← readBlock (c = '|') s.indent fuel (s.cursor.skip 1)
    return { (s.allow true).push (.scalar read.text false) with cursor := read.cursor }
  else if c = '\'' ∨ c = '"' then
    s.scalar? (fun cursor =>
      (readQuoted (c = '\'') fuel (cursor.skip 1)).map (·, false)) false
  else if beginsPlain s.flow c rest then
    s.scalar? (fun cursor =>
      readPlain (s.flow ≠ 0) (s.indent + 1).toNat fuel cursor Gap.empty) true
  else none

/-- The state at the end of the text. -/
def finish? (s : Scan) : Option Scan :=
  (s.closeBlocks (-1)).dropKey?

/-- Reads tokens up to the end of the text. Each takes at least one character, so fuel that is more
    than the number of characters plus one is so for each of them. -/
def run : Nat → Scan → Option Scan
  | 0, _ => none
  | fuel + 1, s =>
    match (skipGap (fuel + 1) s).dropStale? with
    | none => none
    | some s =>
      let s := s.closeBlocks s.cursor.column
      match s.cursor.rest with
      | [] => s.finish?
      | c :: rest =>
        match s.next? fuel c rest with
        | some s => run fuel s
        | none => none

end Scan

/-- The tokens of a text; none if a character may not stand in it or no token begins somewhere. -/
def Token.ofText? (text : String) : Option (List Token) :=
  let chars := text.toList
  if chars.all isAllowed then
    (Scan.run (chars.length + 2) (.start chars)).map fun s => s.tokens.toList
  else none

end ResourceModel.Yaml

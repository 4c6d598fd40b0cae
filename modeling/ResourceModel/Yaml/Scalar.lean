import ResourceModel.Text.Code
import ResourceModel.Yaml.Cursor
import ResourceModel.Url.Percent

set_option autoImplicit false

/-! # Scalars in a YAML text

The three ways to write a text: plain, in quotes, and as a block of lines. Each reader answers the
text and the position behind it. Every reader has fuel that is more than the length of the text, and
hands it on to the readers of the parts. -/

namespace ResourceModel.Yaml

/-- A text that has been read and the position behind it. -/
structure ScalarRead where
  text : List Char
  cursor : Cursor

/-- What has been read with a text in front of it. -/
def ScalarRead.behind (read : ScalarRead) (text : List Char) : ScalarRead :=
  { read with text := text ++ read.text }

/-! ## Gaps inside a scalar -/

/-- The blanks and line ends inside a scalar: blanks before a first line end, the first line end,
    and the ones after it. Blanks after a line end are dropped. -/
structure Gap where
  blanks : List Char
  first : List Char
  others : List Char
  broken : Bool

/-- No gap. -/
def Gap.empty : Gap := ⟨[], [], [], false⟩

/-- What a gap contributes to the text: its blanks, or its line ends folded. A single line feed
    becomes a space, and a line feed before further line ends is dropped. -/
def Gap.text (gap : Gap) : List Char :=
  if gap.broken then
    if gap.first.head? = some '\n' then
      if gap.others.isEmpty then [' '] else gap.others
    else gap.first ++ gap.others
  else gap.blanks

/-- Reads blanks and line ends onto a gap. A tab after a line end in a column below `indent` is an
    error. -/
def readGap (indent : Nat) : Nat → Cursor → Gap → Option (Cursor × Gap)
  | 0, c, gap => some (c, gap)
  | fuel + 1, c, gap =>
    match c.rest with
    | [] => some (c, gap)
    | x :: _ =>
      if isBlank x then
        if gap.broken && decide (c.column < indent) && x == '\t' then none
        else if gap.broken then readGap indent fuel (c.skip 1) gap
        else readGap indent fuel (c.skip 1) { gap with blanks := gap.blanks ++ [x] }
      else if isBreak x then
        let (next, lineEnd) := c.skipBreak
        if gap.broken then readGap indent fuel next { gap with others := gap.others ++ lineEnd }
        else readGap indent fuel next { gap with blanks := [], first := lineEnd, broken := true }
      else some (c, gap)

/-! ## Plain scalars -/

/-- Whether a character delimits items in a flow collection. -/
def isFlowMark (c : Char) : Bool :=
  c = ',' || c = '[' || c = ']' || c = '{' || c = '}'

/-- Reads a run of characters of a plain scalar. In a flow collection its marks end the run, and a
    colon right before a mark is an error. -/
def plainRun? (flow : Bool) : List Char → Option (List Char)
  | [] => some []
  | c :: rest =>
    if isBlank c || isBreak c then some []
    else
      let marked := match rest with
        | d :: _ => isFlowMark d || d = '?'
        | [] => false
      if flow && c = ':' && marked then none
      else if (c = ':' && atGap rest) || (flow && isFlowMark c) then some []
      else (plainRun? flow rest).map (c :: ·)

/-- Reads a plain scalar, whose further lines stand at least in column `indent`. Answers also
    whether it ended behind a line end. -/
def readPlain (flow : Bool) (indent : Nat) : Nat → Cursor → Gap → Option (ScalarRead × Bool)
  | 0, c, gap => some (⟨[], c⟩, gap.broken)
  | fuel + 1, c, gap =>
    if c.atDocumentMarker || c.next? == some '#' then some (⟨[], c⟩, gap.broken)
    else
      match plainRun? flow c.rest with
      | none => none
      | some run =>
        -- a gap belongs to the text only if something of the scalar follows it
        let text := if run.isEmpty then [] else gap.text ++ run
        let gap := if run.isEmpty then gap else Gap.empty
        let c := c.skip run.length
        match c.rest with
        | [] => some (⟨text, c⟩, gap.broken)
        | x :: _ =>
          if isBlank x || isBreak x then
            match readGap indent (fuel + 1) c gap with
            | none => none
            | some (c, gap) =>
              if !flow && decide (c.column < indent) then some (⟨text, c⟩, gap.broken)
              else (readPlain flow indent fuel c gap).map fun read => (read.1.behind text, read.2)
          else some (⟨text, c⟩, gap.broken)

/-! ## Quoted scalars -/

/-- The character of a one-letter escape. -/
def simpleEscape? (c : Char) : Option Char :=
  match c with
  | '0' => some (Char.ofNat 0)
  | 'a' => some (Char.ofNat 7)
  | 'b' => some (Char.ofNat 8)
  | 't' => some '\t'
  | '\t' => some '\t'
  | 'n' => some '\n'
  | 'v' => some (Char.ofNat 11)
  | 'f' => some (Char.ofNat 12)
  | 'r' => some '\r'
  | 'e' => some (Char.ofNat 0x1B)
  | ' ' => some ' '
  | '"' => some '"'
  | '/' => some '/'
  | '\\' => some '\\'
  | 'N' => some (Char.ofNat 0x85)
  | '_' => some (Char.ofNat 0xA0)
  | 'L' => some (Char.ofNat 0x2028)
  | 'P' => some (Char.ofNat 0x2029)
  | _ => none

/-- The number of hexadecimal digits of a numeric escape. -/
def escapeLength? (c : Char) : Option Nat :=
  match c with
  | 'x' => some 2
  | 'u' => some 4
  | 'U' => some 8
  | _ => none

/-- The number that hexadecimal digits stand for. -/
def hexNumber? (digits : List Char) : Option Nat :=
  digits.foldlM (fun n c => (Text.hexDigit? c).map (n * 16 + ·)) 0

/-- The character of an escape, given what follows the backslash, and the number of characters
    that it takes there. -/
def escape? (text : List Char) : Option (Char × Nat) :=
  match text with
  | [] => none
  | c :: rest =>
    match simpleEscape? c with
    | some value => some (value, 1)
    | none =>
      match escapeLength? c with
      | none => none
      | some length =>
        let digits := rest.take length
        if digits.length < length then none
        else match hexNumber? digits with
          | none => none
          | some code => (Text.ofCode? code).map fun value => (value, length + 1)

/-- What ends a run of characters in quotes. -/
inductive RunEnd where
  | quote
  | gap
  | escapedBreak

/-- Reads a run of characters in quotes, up to a gap or the closing quote. What has been read of it
    comes with its last character first. -/
def quotedRun? (single : Bool) : Nat → Cursor → List Char → Option (List Char × Cursor × RunEnd)
  | 0, _, _ => none
  | fuel + 1, c, read =>
    match c.rest with
    | [] => some (read.reverse, c, .gap)
    | x :: rest =>
      if isBlank x || isBreak x then some (read.reverse, c, .gap)
      else if single then
        match x, rest with
        | '\'', '\'' :: _ => quotedRun? single fuel (c.skip 2) ('\'' :: read)
        | '\'', _ => some (read.reverse, c, .quote)
        | x, _ => quotedRun? single fuel (c.skip 1) (x :: read)
      else if x = '"' then some (read.reverse, c, .quote)
      else if x = '\\' then
        match rest with
        | [] => none
        | y :: _ =>
          if isBreak y then some (read.reverse, (c.skip 1).skipLineEnd, .escapedBreak)
          else match escape? rest with
            | none => none
            | some (value, length) => quotedRun? single fuel (c.skip (length + 1)) (value :: read)
      else quotedRun? single fuel (c.skip 1) (x :: read)

/-- Reads a scalar in quotes, from behind the opening quote. -/
def readQuoted (single : Bool) : Nat → Cursor → Option ScalarRead
  | 0, _ => none
  | fuel + 1, c =>
    if c.atDocumentMarker || c.rest.isEmpty then none
    else
      match quotedRun? single (fuel + 1) c [] with
      | none => none
      | some (run, c, ending) =>
        match ending with
        | .quote => some ⟨run, c.skip 1⟩
        | .gap =>
          match readGap 0 (fuel + 1) c Gap.empty with
          | none => none
          | some (c, gap) => (readQuoted single fuel c).map (·.behind (run ++ gap.text))
        | .escapedBreak =>
          -- the line end is passed over, and so are the blanks that the next line begins with
          match readGap 0 (fuel + 1) c { Gap.empty with broken := true } with
          | none => none
          | some (c, gap) => (readQuoted single fuel c).map (·.behind (run ++ gap.text))

/-! ## Block scalars -/

/-- What becomes of the line ends behind the last line of a block. -/
inductive Chomping where
  | strip
  | clip
  | keep
  deriving DecidableEq

/-- The header of a block: the chomping and the number of columns by which it is indented. -/
structure BlockHeader where
  chomping : Chomping
  increment : Option Nat

/-- The chomping that a sign stands for. -/
def chomping? : Option Char → Option Chomping
  | some '+' => some .keep
  | some '-' => some .strip
  | _ => none

/-- Reads the header of a block behind its mark; none if the indentation is zero. -/
def readHeader (c : Cursor) : Option (BlockHeader × Cursor) :=
  let digit? (c : Cursor) : Option Nat :=
    match c.next? with
    | some d => if d.isDigit then some (d.toNat - '0'.toNat) else none
    | none => none
  match chomping? c.next? with
  | some chomping =>
    let c := c.skip 1
    match digit? c with
    | some 0 => none
    | some increment => some (⟨chomping, some increment⟩, c.skip 1)
    | none => some (⟨chomping, none⟩, c)
  | none =>
    match digit? c with
    | some 0 => none
    | some increment =>
      let c := c.skip 1
      match chomping? c.next? with
      | some chomping => some (⟨chomping, some increment⟩, c.skip 1)
      | none => some (⟨.clip, some increment⟩, c)
    | none => some (⟨.clip, none⟩, c)

/-- Skips the indentation of lines and reads the line ends of empty ones. `indent` is none while it
    is not known; `widest` is the greatest column reached. A tab in the indentation is an error. -/
def readIndentation (indent : Option Nat) :
    Nat → Cursor → Nat → List Char → Option (Cursor × Nat × List Char)
  | 0, c, widest, breaks => some (c, widest, breaks)
  | fuel + 1, c, widest, breaks =>
    let room := match indent with
      | some n => n - c.column
      | none => c.rest.length
    let spaces := ((c.rest.takeWhile (· = ' ')).take room).length
    let c := c.skip spaces
    let widest := max widest c.column
    let inside := match indent with
      | some n => decide (c.column < n)
      | none => true
    match c.rest with
    | x :: _ =>
      if inside && x == '\t' then none
      else if isBreak x then
        let (next, lineEnd) := c.skipBreak
        readIndentation indent fuel next widest (breaks ++ lineEnd)
      else some (c, widest, breaks)
    | [] => some (c, widest, breaks)

/-- What stands between two lines of a block: the line end of the first one and the line ends of
    the empty lines after it. In a folded block a line feed between two lines that do not begin
    with a blank becomes a space. -/
def lineJoin (literal : Bool) (first others : List Char) (blankBefore blankAfter : Bool) :
    List Char :=
  if !literal && first.head? == some '\n' && !blankBefore && !blankAfter then
    (if others.isEmpty then [' '] else []) ++ others
  else first ++ others

/-- Reads the lines of a block that is indented by `indent` columns. `first` and `others` are the
    line ends in front of the next line, `blankBefore` whether the line before them begins with a
    blank. -/
def readLines (literal : Bool) (indent : Nat) (chomping : Chomping) :
    Nat → Cursor → List Char → List Char → Bool → Option ScalarRead
  | 0, _, _, _, _ => none
  | fuel + 1, c, first, others, blankBefore =>
    if c.column == indent && !c.rest.isEmpty then
      let blank := match c.next? with
        | some x => isBlank x
        | none => false
      let line := c.rest.takeWhile fun x => !isBreak x
      let text := lineJoin literal first others blankBefore blank ++ line
      let (c, first) := (c.skip line.length).skipBreak
      match readIndentation (some indent) (fuel + 1) c 0 [] with
      | none => none
      | some (c, _, others) =>
        (readLines literal indent chomping fuel c first others blank).map (·.behind text)
    else
      let ending := match chomping with
        | .strip => []
        | .clip => first
        | .keep => first ++ others
      some ⟨ending, c⟩

/-- Reads a block from behind its mark. `outer` is the column of the enclosing block. -/
def readBlock (literal : Bool) (outer : Int) (fuel : Nat) (c : Cursor) : Option ScalarRead := do
  let (header, c) ← readHeader c
  let c ← c.endOfLine?
  let given := header.increment.map fun n => (if 0 ≤ outer then outer.toNat else 0) + n
  let (c, widest, breaks) ← readIndentation given fuel c 0 []
  let indent := given.getD (max (max widest (outer + 1).toNat) 1)
  readLines literal indent header.chomping fuel c [] breaks false

end ResourceModel.Yaml

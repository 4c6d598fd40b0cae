import ResourceModel.Yaml.Scalar
import ResourceModel.Yaml12.Cursor

set_option autoImplicit false

/-! # Scalars in a text of YAML 1.2

Plain scalars, scalars in quotes, and blocks of lines. Each reader answers the text and the position
behind it. The column `indent` is that of the enclosing block; the fuel is more than the length of
the text. -/

namespace ResourceModel.Yaml12

/-- A text that has been read and the position behind it. -/
structure ScalarRead where
  text : List Char
  cursor : Cursor

/-- What has been read with a text in front of it. -/
def ScalarRead.behind (read : ScalarRead) (text : List Char) : ScalarRead :=
  { read with text := text ++ read.text }

/-- So many line feeds. -/
def lineFeeds (count : Nat) : List Char :=
  List.replicate count '\n'

/-! ## Gaps inside a scalar -/

/-- The blanks and line ends inside a scalar: blanks before a first line end, whether there is one,
    and the number of those after it. -/
structure Gap where
  blanks : List Char
  broken : Bool
  others : Nat

/-- What a gap with a first line end contributes to the text: a single line end becomes a space. -/
def foldedGap (gap : Gap) : List Char :=
  if gap.broken then if gap.others = 0 then [' '] else lineFeeds gap.others
  else lineFeeds gap.others

/-! ## Plain scalars -/

/-- Whether a plain scalar goes on with a character, given what follows it. -/
def continuesPlain (flow : Bool) (c : Char) (rest : List Char) : Bool :=
  !(c = ':' && (atGap rest || (flow && atFlowMark rest))) && !(flow && isFlowMark c)

/-- The run of characters of a plain scalar that a text begins with. -/
def plainRun (flow : Bool) : List Char → List Char
  | [] => []
  | c :: rest =>
    if isBlank c || isBreak c || !continuesPlain flow c rest then [] else c :: plainRun flow rest

/-- Reads blanks and line ends behind a run of a plain scalar. A tab left of `indent` may only stand
    on an empty line. -/
def plainGap (indent : Int) : Nat → Cursor → Gap → Option (Cursor × Gap)
  | 0, c, gap => some (c, gap)
  | fuel + 1, c, gap =>
    match c.rest with
    | [] => some (c, gap)
    | x :: _ =>
      if isBlank x then
        if !c.fresh then
          plainGap indent fuel (c.skipBlanks 1) { gap with blanks := gap.blanks ++ [x] }
        else if x = '\t' && c.isLeftOf indent then
          match c.padded? with
          | some c => if atLineEnd c.rest then plainGap indent fuel c gap else none
          | none => none
        else plainGap indent fuel (c.skipBlanks 1) gap
      else if isBreak x then
        if c.fresh then plainGap indent fuel c.skipBreak { gap with others := gap.others + 1 }
        else plainGap indent fuel c.skipBreak { gap with blanks := [], broken := true }
      else some (c, gap)

/-- Reads a plain scalar from behind a gap. Outside flow collections it ends left of `indent`. -/
def readPlain (flow : Bool) (indent : Int) : Nat → Cursor → Gap → Option ScalarRead
  | 0, _, _ => none
  | fuel + 1, c, gap =>
    if (c.fresh && c.atDocumentMarker) || c.next? == some '#' then some ⟨[], c⟩
    else if flow && c.next? == some '-' && atFlowMark (c.rest.drop 1) then none
    else
      let run := plainRun flow c.rest
      let text :=
        if run.isEmpty then [] else (if c.fresh then foldedGap gap else gap.blanks) ++ run
      let gap : Gap := if run.isEmpty then gap else ⟨[], false, 0⟩
      let c := c.skip run.length
      if c.rest.isEmpty || !atGap c.rest then some ⟨text, c⟩
      else match plainGap indent (fuel + 1) c gap with
        | none => none
        | some (c, gap) =>
          if !flow && c.isLeftOf indent then some ⟨text, c⟩
          else (readPlain flow indent fuel c gap).map (·.behind text)

/-! ## Quoted scalars -/

/-- What ends a run of characters in quotes. -/
inductive RunEnd where
  | quote
  | gap
  | escapedBreak

/-- Reads a run of characters in quotes, up to a gap or the closing quote. What has been read of it
    comes with its last character first. -/
def quotedRun? (single : Bool) : Nat → Cursor → List Char → Option (List Char × Cursor × RunEnd)
  | 0, _, _ => none
  | fuel + 1, c, read =>
    match c.rest with
    | [] => some (read.reverse, c, .gap)
    | x :: rest =>
      if isBlank x || isBreak x then some (read.reverse, c, .gap)
      else if single then
        match x, rest with
        | '\'', '\'' :: _ => quotedRun? single fuel (c.skip 2) ('\'' :: read)
        | '\'', _ => some (read.reverse, c, .quote)
        | x, _ => quotedRun? single fuel (c.skip 1) (x :: read)
      else if x = '"' then some (read.reverse, c, .quote)
      else if x = '\\' then
        if rest.head?.any isBreak then some (read.reverse, (c.skip 1).skipBreak, .escapedBreak)
        else match Yaml.escape? rest with
          | none => none
          | some (value, length) => quotedRun? single fuel (c.skip (length + 1)) (value :: read)
      else quotedRun? single fuel (c.skip 1) (x :: read)

/-- Reads blanks and line ends inside quotes; `lines` tells whether a line has ended before. A tab
    left of `indent` is an error. -/
def quotedGap (indent : Int) : Nat → Bool → Cursor → Gap → Option (Cursor × Gap × Bool)
  | 0, lines, c, gap => some (c, gap, lines)
  | fuel + 1, lines, c, gap =>
    match c.rest with
    | [] => some (c, gap, lines)
    | x :: _ =>
      if isBlank x then
        if !lines then
          quotedGap indent fuel lines (c.skipBlanks 1) { gap with blanks := gap.blanks ++ [x] }
        else if x = '\t' && c.isLeftOf indent then none
        else quotedGap indent fuel lines (c.skipBlanks 1) gap
      else if isBreak x then
        if lines then quotedGap indent fuel lines c.skipBreak { gap with others := gap.others + 1 }
        else quotedGap indent fuel true c.skipBreak { gap with blanks := [], broken := true }
      else some (c, gap, lines)

/-- Reads a scalar in quotes, from behind the opening quote up to the closing one. -/
def quotedBody (single : Bool) (indent : Int) : Nat → Cursor → Option ScalarRead
  | 0, _ => none
  | fuel + 1, c =>
    if c.atDocumentMarker || c.rest.isEmpty || c.isLeftOf indent then none
    else match quotedRun? single (fuel + 1) c [] with
      | none => none
      | some (run, c, .quote) => some ⟨run, c.skip 1⟩
      | some (run, c, ending) =>
        let lines := match ending with
          | .escapedBreak => true
          | _ => false
        match quotedGap indent (fuel + 1) lines c ⟨[], false, 0⟩ with
        | none => none
        | some (c, gap, lines) =>
          let joined := if lines then foldedGap gap else gap.blanks
          (quotedBody single indent fuel c).map (·.behind (run ++ joined))

/-- Reads a scalar in quotes from its opening quote. Only what can follow a scalar may stand behind
    it on its line. -/
def readQuoted (single flow : Bool) (indent : Int) (fuel : Nat) (c : Cursor) :
    Option ScalarRead := do
  let read ← quotedBody single indent fuel (c.skip 1)
  let rest ← read.cursor.padded?
  let ends := match rest.next? with
    | none => true
    | some x =>
      isBreak x || (flow && (x = ',' || x = ']' || x = '\x7d')) ||
        (x = ':' && (flow || rest.line = c.line))
  if ends then some { read with cursor := rest } else none

/-! ## Block scalars -/

/-- Reads the header of a block behind its mark; none if the indentation is zero. -/
def readHeader (c : Cursor) : Option (Yaml.BlockHeader × Cursor) :=
  let digit? (c : Cursor) : Option Nat :=
    (c.next?.filter Char.isDigit).map fun d => d.toNat - '0'.toNat
  match Yaml.chomping? c.next? with
  | some chomping =>
    let c := c.skip 1
    match digit? c with
    | some 0 => none
    | some increment => some (⟨chomping, some increment⟩, c.skip 1)
    | none => some (⟨chomping, none⟩, c)
  | none =>
    match digit? c with
    | some 0 => none
    | some increment =>
      let c := c.skip 1
      match Yaml.chomping? c.next? with
      | some chomping => some (⟨chomping, some increment⟩, c.skip 1)
      | none => some (⟨.clip, some increment⟩, c)
    | none => some (⟨.clip, none⟩, c)

/-- Skips the indentation of lines and counts the empty ones. `indent` is none while it is not
    known; `widest` is the greatest column reached. -/
def readIndentation (indent : Option Nat) : Nat → Cursor → Nat → Nat → Cursor × Nat × Nat
  | 0, c, widest, breaks => (c, widest, breaks)
  | fuel + 1, c, widest, breaks =>
    let spaces := (c.rest.takeWhile (· = ' ')).length
    let c := c.skipBlanks (match indent with
      | some n => min spaces (n - c.column)
      | none => spaces)
    let widest := max widest c.column
    if c.next?.any isBreak then readIndentation indent fuel c.skipBreak widest (breaks + 1)
    else (c, widest, breaks)

/-- The end of a block: its line ends and those after it. A block that ends with the text gets a
    line end if its last line is not left of it. -/
def blockEnd (chomping : Yaml.Chomping) (indent : Nat) (c : Cursor) (broken : Bool) (breaks : Nat) :
    List Char :=
  match chomping with
  | .strip => []
  | _ =>
    let own := lineFeeds (if broken then 1 else 0)
    let last := lineFeeds (if c.rest.isEmpty && decide (max indent 1 ≤ c.column) then 1 else 0)
    own ++ last ++ (if chomping = .keep then lineFeeds breaks else [])

/-- Reads the lines of a block. `broken` and `breaks` are the line end of the line before and the
    number of empty lines behind it, `blankBefore` tells whether that line begins with a blank. -/
def readLines (literal : Bool) (indent : Nat) (chomping : Yaml.Chomping) :
    Nat → Cursor → Bool → Nat → Bool → Option ScalarRead
  | 0, _, _, _, _ => none
  | fuel + 1, c, broken, breaks, blankBefore =>
    if c.column = indent && !c.rest.isEmpty && !(indent = 0 && beginsMarker '.' c.rest) then
      let blank := c.next?.any isBlank
      let joined :=
        if !literal && broken && !blankBefore && !blank then
          if breaks = 0 then [' '] else lineFeeds breaks
        else lineFeeds ((if broken then 1 else 0) + breaks)
      let line := c.rest.takeWhile fun x => !isBreak x
      let text := joined ++ line
      let c := c.skip line.length
      if c.rest.isEmpty then some ⟨text ++ blockEnd chomping indent c false 0, c⟩
      else
        let (c, _, breaks) := readIndentation (some indent) (fuel + 1) c.skipBreak 0 0
        (readLines literal indent chomping fuel c true breaks blank).map (·.behind text)
    else some ⟨blockEnd chomping indent c broken breaks, c⟩

/-- The text of a block without lines that ends with the text around it. -/
def emptyBlock (chomping : Yaml.Chomping) (broken : Bool) (breaks : Nat) : List Char :=
  match chomping with
  | .strip => []
  | .clip => lineFeeds (if broken then 1 else 0)
  | .keep => if broken && breaks = 0 then ['\n'] else lineFeeds breaks

/-- Reads a block from behind its mark. `outer` is the column of the enclosing block. -/
def readBlock (literal : Bool) (outer : Int) (fuel : Nat) (start : Cursor) : Option ScalarRead := do
  let (header, c) ← readHeader start
  let c ← c.padded?
  if !atLineEnd c.rest then none
  else
    let broken := !c.rest.isEmpty
    let c := if broken then c.skipBreak else c
    if c.next? = some '\t' then none
    else
      let given := header.increment.map fun n => outer.toNat + n
      let (c, widest, breaks) := readIndentation given fuel c 0 0
      let found := max widest (outer + 1).toNat
      let indent := given.getD (if 0 < outer then max found 1 else found)
      if c.rest.isEmpty then
        some ⟨if c.line = start.line then [] else emptyBlock header.chomping broken breaks, c⟩
      else if c.column < indent ∧ outer < c.column then none
      else readLines literal indent header.chomping fuel c false breaks false

end ResourceModel.Yaml12

import ResourceModel.Text.Split

set_option autoImplicit false

/-! # Markup

The tags of a document and their attributes. Text between tags is not looked at; a construct that
is not closed and an end tag that does not match the last open element make the document
ill-formed, elements that are left open do not. -/

namespace ResourceModel.Xml

/-- A tag: what an element starts with, its name and attributes as they are written, or a name
    that it ends with. -/
inductive Tag where
  | opening (content : List Char)
  | empty (content : List Char)
  | closing (name : List Char)
  deriving DecidableEq, Repr

/-- Whether a character separates the attributes of a tag. -/
def isGap (c : Char) : Bool :=
  c = ' ' || c = '\r' || c = '\n' || c = '\t'

/-- The name that a tag begins with. -/
def nameOf (content : List Char) : List Char :=
  content.takeWhile fun c => !isGap c

/-- A name without what precedes its first colon. -/
def localName (name : List Char) : List Char :=
  match Text.cut? ':' name with
  | some (_, rest) => rest
  | none => name

/-! ## The ends of constructs -/

/-- The content of a tag up to the `>` that stands outside quotes, and the rest. -/
def tagContent? (inQuotes : Option Char) : List Char → Option (List Char × List Char)
  | [] => none
  | c :: rest =>
    if inQuotes = none ∧ c = '>' then some ([], rest)
    else
      let inQuotes := match inQuotes with
        | none => if c = '"' ∨ c = '\'' then some c else none
        | some quote => if c = quote then none else some quote
      (tagContent? inQuotes rest).map fun pair => (c :: pair.1, pair.2)

/-- What follows the first `>` that stands directly behind an ending and behind at least `least`
    characters. `seen` holds the characters so far, the last one first. -/
def afterEnding? (ending : List Char) (least : Nat) (seen : List Char) :
    List Char → Option (List Char × List Char)
  | [] => none
  | c :: rest =>
    if c = '>' ∧ least ≤ seen.length ∧ (Text.after? ending seen).isSome then
      some (seen.reverse, rest)
    else afterEnding? ending least (c :: seen) rest

/-- The content of a document type up to the `>` that closes it; the brackets inside it balance. -/
def balanced? (depth : Nat) : List Char → Option (List Char × List Char)
  | [] => none
  | c :: rest =>
    if c = '>' ∧ depth = 0 then some ([], rest)
    else
      let depth := if c = '<' then depth + 1 else if c = '>' then depth - 1 else depth
      (balanced? depth rest).map fun pair => (c :: pair.1, pair.2)

/-- Whether a text begins with a word, in either case. -/
def beginsWith (word text : List Char) : Bool :=
  (Text.after? word (text.map Char.toUpper)).isSome

/-- What follows a comment, a literal section or a document type, read from its `!`. -/
def afterDeclaration? (text : List Char) : Option (List Char) :=
  match text with
  | '!' :: '-' :: _ =>
    -- the dashes of the beginning are not those of the end
    match afterEnding? ['-', '-'] 5 [] text with
    | some (content, rest) => if (Text.after? "!--".toList content).isSome then some rest else none
    | none => none
  | '!' :: '[' :: _ =>
    match afterEnding? [']', ']'] 0 [] text with
    | some (content, rest) =>
      if (Text.after? "![CDATA[".toList content).isSome then some rest else none
    | none => none
  | '!' :: d :: _ =>
    if d = 'D' ∨ d = 'd' then
      match balanced? 0 text with
      | some (content, rest) =>
        -- a name has to stand behind the eight characters of the word
        if beginsWith "!DOCTYPE".toList content ∧ (content.drop 8).any (fun c => !isGap c) then
          some rest
        else none
      | none => none
    else none
  | _ => none

/-- A name without blanks behind it; a name of blanks alone stays. -/
def closingName (content : List Char) : List Char :=
  let name := (content.reverse.dropWhile isGap).reverse
  if name.isEmpty then content else name

/-- The construct after a `<`: a tag, or nothing for any other construct; and the rest. -/
def construct? (text : List Char) : Option (Option Tag × List Char) :=
  match text with
  | [] => none
  | '!' :: _ => (afterDeclaration? text).map fun rest => (none, rest)
  | '?' :: _ =>
    match afterEnding? ['?'] 0 [] text with
    | some (content, rest) => if content.length < 2 then none else some (none, rest)
    | none => none
  | '/' :: text =>
    (tagContent? none text).map fun pair => (some (.closing (closingName pair.1)), pair.2)
  | text =>
    (tagContent? none text).map fun (content, rest) =>
      match Text.before? ['/'] content with
      | some content => (some (.empty content), rest)
      | none => (some (.opening content), rest)

/-- The names of the open elements after a tag; none if it closes another element than the last
    open one. -/
def openAfter? (names : List (List Char)) : Tag → Option (List (List Char))
  | .opening content => some (nameOf content :: names)
  | .empty _ => some names
  | .closing name =>
    match names with
    | last :: names => if last = name then some names else none
    | [] => none

/-- The tags of a text inside the given open elements. The fuel is at least the length of the
    text. -/
def tagsFrom : Nat → List (List Char) → List Char → Option (List Tag)
  | 0, _, _ => some []
  | fuel + 1, names, text =>
    match Text.cut? '<' text with
    | none => some []
    | some (_, text) =>
      match construct? text with
      | none => none
      | some (none, rest) => tagsFrom fuel names rest
      | some (some tag, rest) =>
        match openAfter? names tag with
        | none => none
        | some names => (tagsFrom fuel names rest).map (tag :: ·)

/-- The tags of a document, if it is well-formed. -/
def tags (text : List Char) : Option (List Tag) :=
  tagsFrom (text.length + 1) [] text

/-! ## Attributes -/

/-- What reading one attribute answers: its name and value, or nothing for a malformed one; and
    the text to go on with, if there is any. -/
structure AttributeRead where
  found? : Option (List Char × List Char)
  rest : List Char

/-- The text from the first blank on. -/
def fromGap (text : List Char) : List Char :=
  text.dropWhile fun c => !isGap c

/-- Reads the value behind an equals sign. -/
def readValue (name text : List Char) : AttributeRead :=
  match text.dropWhile isGap with
  | [] => ⟨none, []⟩
  | c :: rest =>
    if c = '"' ∨ c = '\'' then
      match Text.cut? c rest with
      | some (value, rest) => ⟨some (name, value), rest⟩
      | none => ⟨none, []⟩
    else ⟨none, fromGap (c :: rest)⟩

/-- Reads one attribute, given its first character. One whose name is known is malformed. -/
def readAttribute (known : List (List Char)) (first : Char) (text : List Char) :
    List (List Char) × AttributeRead :=
  let name := first :: text.takeWhile fun c => c ≠ '=' && !isGap c
  match (text.drop (name.length - 1)).dropWhile isGap with
  | '=' :: rest =>
    if known.contains name then (known, ⟨none, fromGap rest⟩)
    else (name :: known, readValue name rest)
  | rest => (known, ⟨none, rest⟩)

/-- The attributes of a text. The fuel is at least the length of the text. -/
def attributesFrom : Nat → List (List Char) → List Char → List (List Char × List Char)
  | 0, _, _ => []
  | fuel + 1, known, text =>
    match text.dropWhile isGap with
    | [] => []
    | first :: text =>
      let (known, read) := readAttribute known first text
      read.found?.toList ++ attributesFrom fuel known read.rest

/-- The attributes of a tag that are well-formed, each name once, with their values as written. -/
def attributes (content : List Char) : List (List Char × List Char) :=
  attributesFrom (content.length + 1) [] (content.drop (nameOf content).length)

end ResourceModel.Xml

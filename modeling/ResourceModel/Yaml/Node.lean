import ResourceModel.Yaml.Token

set_option autoImplicit false

/-! # Nodes of a YAML document

The tree that tokens describe. Every node may have an anchor, by which aliases refer to it, and a
tag. A stream holds any number of documents. -/

namespace ResourceModel.Yaml

/-- The anchor and the tag in front of a node. -/
structure NodeMarks where
  anchor? : Option (List Char)
  tag? : Option (List Char)
  deriving Repr

/-- A node. -/
inductive Node where
  | scalar (marks : NodeMarks) (text : List Char) (plain : Bool)
  | sequence (marks : NodeMarks) (items : List Node)
  | mapping (marks : NodeMarks) (pairs : List (Node × Node))
  | alias (name : List Char)
  deriving Inhabited, Repr

/-- The tag directives of a document: handles and the text they stand for. -/
abbrev TagHandles := List (List Char × List Char)

namespace Node

/-- A node that is not written. -/
def absent : Node := .scalar ⟨none, none⟩ [] true

/-- The tag that a handle and a suffix denote; none if the handle is not declared. -/
def resolveTag? (handles : TagHandles) (handle suffix : List Char) : Option (List Char) :=
  if handle.isEmpty then some suffix
  else (handles.find? (·.1 = handle)).map (·.2 ++ suffix)

/-- Reads the anchor and the tag in front of a node, in either order. -/
def readMarks? (handles : TagHandles) : List Token → Option (NodeMarks × List Token)
  | .anchor name :: .tag handle suffix :: rest =>
    (resolveTag? handles handle suffix).map fun tag => (⟨some name, some tag⟩, rest)
  | .tag handle suffix :: .anchor name :: rest =>
    (resolveTag? handles handle suffix).map fun tag => (⟨some name, some tag⟩, rest)
  | .anchor name :: rest => some (⟨some name, none⟩, rest)
  | .tag handle suffix :: rest =>
    (resolveTag? handles handle suffix).map fun tag => (⟨none, some tag⟩, rest)
  | rest => some (⟨none, none⟩, rest)

/-- Whether a list of tokens begins with one of the given tokens. -/
def startsWith (tokens : List Token) (among : List Token) : Bool :=
  match tokens with
  | token :: _ => among.contains token
  | [] => false

/-- A node and the tokens behind it. -/
abbrev Read := Option (Node × List Token)

/-- The items of a sequence and the tokens behind it. -/
abbrev ItemsRead := Option (List Node × List Token)

/-- The pairs of a mapping and the tokens behind it. -/
abbrev PairsRead := Option (List (Node × Node) × List Token)

mutual

/-- Reads a node. A block may begin here if `block`, and a sequence may begin without one if
    `indentless`. The fuel exceeds four times the number of tokens. -/
def read (handles : TagHandles) : Nat → Bool → Bool → List Token → Read
  | 0, _, _, _ => none
  | fuel + 1, block, indentless, tokens =>
    match tokens with
    | .alias name :: rest => some (.alias name, rest)
    | tokens =>
      match readMarks? handles tokens with
      | none => none
      | some (marks, tokens) =>
        match tokens with
        | .scalar text plain :: rest => some (.scalar marks text plain, rest)
        | .flowSequenceStart :: rest =>
          (readFlowItems handles fuel true rest).map fun r => (.sequence marks r.1, r.2)
        | .flowMappingStart :: rest =>
          (readFlowPairs handles fuel true rest).map fun r => (.mapping marks r.1, r.2)
        | tokens =>
          if indentless && startsWith tokens [.blockEntry] then
            (readIndentless handles fuel tokens).map fun r => (.sequence marks r.1, r.2)
          else if block && startsWith tokens [.blockSequenceStart] then
            (readItems handles fuel tokens.tail).map fun r => (.sequence marks r.1, r.2)
          else if block && startsWith tokens [.blockMappingStart] then
            (readPairs handles fuel tokens.tail).map fun r => (.mapping marks r.1, r.2)
          else if marks.anchor?.isSome || marks.tag?.isSome then
            some (.scalar marks [] true, tokens)
          else none

/-- Reads a node that is absent in front of certain tokens. -/
def readUnless (handles : TagHandles) : Nat → Bool → Bool → List Token → List Token → Read
  | 0, _, _, _, _ => none
  | fuel + 1, block, indentless, ends, tokens =>
    if startsWith tokens ends then some (absent, tokens)
    else read handles fuel block indentless tokens

/-- Reads the entries of a block sequence up to its end. -/
def readItems (handles : TagHandles) : Nat → List Token → ItemsRead
  | 0, _ => none
  | fuel + 1, tokens =>
    match tokens with
    | .blockEntry :: rest =>
      match readUnless handles fuel true false [.blockEntry, .blockEnd] rest with
      | none => none
      | some (item, rest) => (readItems handles fuel rest).map fun r => (item :: r.1, r.2)
    | .blockEnd :: rest => some ([], rest)
    | _ => none

/-- Reads the entries of a sequence that is not indented against the key before it. -/
def readIndentless (handles : TagHandles) : Nat → List Token → ItemsRead
  | 0, _ => none
  | fuel + 1, tokens =>
    match tokens with
    | .blockEntry :: rest =>
      match readUnless handles fuel true false [.blockEntry, .key, .value, .blockEnd] rest with
      | none => none
      | some (item, rest) => (readIndentless handles fuel rest).map fun r => (item :: r.1, r.2)
    | tokens => some ([], tokens)

/-- Reads the pairs of a block mapping up to its end. -/
def readPairs (handles : TagHandles) : Nat → List Token → PairsRead
  | 0, _ => none
  | fuel + 1, tokens =>
    match tokens with
    | .key :: rest =>
      match readUnless handles fuel true true [.key, .value, .blockEnd] rest with
      | none => none
      | some (key, rest) =>
        match readValue handles fuel rest with
        | none => none
        | some (value, rest) =>
          (readPairs handles fuel rest).map fun r => ((key, value) :: r.1, r.2)
    | .blockEnd :: rest => some ([], rest)
    | _ => none

/-- Reads the value behind a key of a block mapping. -/
def readValue (handles : TagHandles) : Nat → List Token → Read
  | 0, _ => none
  | fuel + 1, tokens =>
    match tokens with
    | .value :: rest => readUnless handles fuel true true [.key, .value, .blockEnd] rest
    | tokens => some (absent, tokens)

/-- Reads the items of a flow sequence up to its end; each but the first stands behind a comma. -/
def readFlowItems (handles : TagHandles) : Nat → Bool → List Token → ItemsRead
  | 0, _, _ => none
  | fuel + 1, first, tokens =>
    match tokens with
    | .flowSequenceEnd :: rest => some ([], rest)
    | tokens =>
      let entry := match first, tokens with
        | true, tokens => some tokens
        | false, .flowEntry :: rest => some rest
        | false, _ => none
      match entry with
      | none => none
      | some (.flowSequenceEnd :: rest) => some ([], rest)
      | some (.key :: rest) =>
        match readSinglePair handles fuel rest with
        | none => none
        | some (item, rest) =>
          (readFlowItems handles fuel false rest).map fun r => (item :: r.1, r.2)
      | some tokens =>
        match read handles fuel false false tokens with
        | none => none
        | some (item, rest) =>
          (readFlowItems handles fuel false rest).map fun r => (item :: r.1, r.2)

/-- Reads a pair that stands as an item of a flow sequence. A token that shows that the key is
    absent is passed over. -/
def readSinglePair (handles : TagHandles) : Nat → List Token → Read
  | 0, _ => none
  | fuel + 1, tokens =>
    let key :=
      if startsWith tokens [.value, .flowEntry, .flowSequenceEnd] then some (absent, tokens.tail)
      else read handles fuel false false tokens
    match key with
    | none => none
    | some (key, .value :: rest) =>
      (readUnless handles fuel false false [.flowEntry, .flowSequenceEnd] rest).map fun r =>
        (.mapping ⟨none, none⟩ [(key, r.1)], r.2)
    | some (key, rest) => some (.mapping ⟨none, none⟩ [(key, absent)], rest)

/-- Reads the pairs of a flow mapping up to its end; each but the first stands behind a comma. -/
def readFlowPairs (handles : TagHandles) : Nat → Bool → List Token → PairsRead
  | 0, _, _ => none
  | fuel + 1, first, tokens =>
    match tokens with
    | .flowMappingEnd :: rest => some ([], rest)
    | tokens =>
      let entry := match first, tokens with
        | true, tokens => some tokens
        | false, .flowEntry :: rest => some rest
        | false, _ => none
      match entry with
      | none => none
      | some (.flowMappingEnd :: rest) => some ([], rest)
      | some (.key :: rest) =>
        match readUnless handles fuel false false [.value, .flowEntry, .flowMappingEnd] rest with
        | none => none
        | some (key, .value :: rest) =>
          match readUnless handles fuel false false [.flowEntry, .flowMappingEnd] rest with
          | none => none
          | some (value, rest) =>
            (readFlowPairs handles fuel false rest).map fun r => ((key, value) :: r.1, r.2)
        | some (key, rest) =>
          (readFlowPairs handles fuel false rest).map fun r => ((key, absent) :: r.1, r.2)
      | some tokens =>
        match read handles fuel false false tokens with
        | none => none
        | some (key, rest) =>
          (readFlowPairs handles fuel false rest).map fun r => ((key, absent) :: r.1, r.2)

end

/-! ## Documents -/

/-- The tag directives that hold in every document that does not declare them otherwise. -/
def standardHandles : TagHandles :=
  [(['!'], ['!']), (['!', '!'], "tag:yaml.org,2002:".toList)]

/-- Reads the directives in front of a document. A directive that is repeated, and a version other
    than 1.1 and 1.2, are errors. -/
def readDirectives : Bool → TagHandles → List Token → Option (TagHandles × List Token)
  | versioned, handles, .versionDirective major minor :: rest =>
    if versioned || major ≠ 1 || (minor ≠ 1 && minor ≠ 2) then none
    else readDirectives true handles rest
  | versioned, handles, .tagDirective handle lead :: rest =>
    if handles.any (·.1 = handle) then none
    else readDirectives versioned (handles ++ [(handle, lead)]) rest
  | _, handles, tokens => some (handles ++ standardHandles, tokens)

/-- Reads the root of a document behind its start. -/
def readRoot (handles : TagHandles) (tokens : List Token) : Read :=
  match tokens with
  | [] => some (absent, [])
  | .versionDirective _ _ :: _ | .tagDirective _ _ :: _ | .documentStart :: _ | .documentEnd :: _ =>
    some (absent, tokens)
  | tokens => read handles (4 * tokens.length + 4) true false tokens

/-- Reads a document that begins with directives or a marker. -/
def readExplicit (tokens : List Token) : Read :=
  match readDirectives false [] tokens with
  | some (handles, .documentStart :: rest) => readRoot handles rest
  | _ => none

/-- Reads the documents behind the first one. The fuel exceeds the number of tokens. -/
def readFurther : Nat → List Token → Option (List Node)
  | 0, _ => none
  | fuel + 1, tokens =>
    match tokens.dropWhile (· = .documentEnd) with
    | [] => some []
    | tokens =>
      match readExplicit tokens with
      | none => none
      | some (root, rest) => (readFurther fuel rest).map (root :: ·)

/-- The roots of the documents in a stream of tokens. The first document needs no marker. -/
def documents? (tokens : List Token) : Option (List Node) :=
  let further (root : Node × List Token) : Option (List Node) :=
    (readFurther (tokens.length + 1) root.2).map (root.1 :: ·)
  match tokens with
  | [] => some []
  | .versionDirective _ _ :: _ | .tagDirective _ _ :: _ | .documentStart :: _ =>
    (readExplicit tokens).bind further
  | tokens =>
    (read standardHandles (4 * tokens.length + 4) true false tokens).bind further

end Node

end ResourceModel.Yaml

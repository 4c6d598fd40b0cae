import ResourceModel.Yaml12.Token

set_option autoImplicit false

/-! # Nodes of a document of YAML 1.2

The tree that tokens describe. A tag is kept as what its handle stands for and the rest. -/

namespace ResourceModel.Yaml12

open Yaml (Token)

/-- A tag: what its handle stands for, and the rest. -/
structure Tag where
  lead : List Char
  suffix : List Char
  deriving DecidableEq, Repr

/-- The anchor and the tag in front of a node. -/
structure NodeMarks where
  anchor? : Option (List Char)
  tag? : Option Tag
  deriving Repr

/-- A node. -/
inductive Node where
  | absent
  | scalar (marks : NodeMarks) (text : List Char) (plain : Bool)
  | sequence (marks : NodeMarks) (items : List Node)
  | mapping (marks : NodeMarks) (pairs : List (Node × Node))
  | alias (name : List Char)
  deriving Inhabited, Repr

/-- The tag directive of a document: a handle and what it stands for. Of several the last one
    counts. -/
abbrev TagHandle := Option (List Char × List Char)

/-- What the tags of the core schema begin with. -/
def coreLead : List Char := "tag:yaml.org,2002:".toList

/-- The tag of a handle and the rest; none if the handle is a word between marks that no directive
    declares. -/
def resolveTag? (declared : TagHandle) (handle suffix : List Char) : Option Tag :=
  let found := (declared.filter (·.1 = handle)).map (·.2)
  match found with
  | some lead => some ⟨lead, suffix⟩
  | none =>
    if handle = ['!', '!'] then some ⟨coreLead, suffix⟩
    else if 1 < handle.length ∧ handle.getLast? = some '!' then none
    else some ⟨handle, suffix⟩

/-- Reads the anchor and the tag in front of a node, in either order. -/
def readMarks? (declared : TagHandle) : List Token → Option (NodeMarks × List Token)
  | .anchor name :: .tag handle suffix :: rest =>
    (resolveTag? declared handle suffix).map fun tag => (⟨some name, some tag⟩, rest)
  | .tag handle suffix :: .anchor name :: rest =>
    (resolveTag? declared handle suffix).map fun tag => (⟨some name, some tag⟩, rest)
  | .anchor name :: rest => some (⟨some name, none⟩, rest)
  | .tag handle suffix :: rest =>
    (resolveTag? declared handle suffix).map fun tag => (⟨none, some tag⟩, rest)
  | rest => some (⟨none, none⟩, rest)

namespace Node

/-- Whether tokens begin with one of the given tokens. -/
def startsWith (tokens : List Token) (among : List Token) : Bool :=
  tokens.head?.any among.contains

mutual

/-- Reads a node. A block may begin here if `block`, and a sequence may begin without one if
    `indentless`. The fuel exceeds four times the number of tokens. -/
def read (declared : TagHandle) :
    Nat → Bool → Bool → List Token → Option (Node × List Token)
  | 0, _, _, _ => none
  | fuel + 1, block, indentless, tokens =>
    match tokens with
    | .alias name :: rest => some (.alias name, rest)
    | tokens =>
      match readMarks? declared tokens with
      | none => none
      | some (marks, tokens) =>
        match tokens with
        | .scalar text plain :: rest => some (.scalar marks text plain, rest)
        | .flowSequenceStart :: rest =>
          (readFlowItems declared fuel true rest).map fun r => (.sequence marks r.1, r.2)
        | .flowMappingStart :: rest =>
          (readFlowPairs declared fuel true rest).map fun r => (.mapping marks r.1, r.2)
        | tokens =>
          if indentless && startsWith tokens [.blockEntry] then
            (readIndentless declared fuel tokens).map fun r => (.sequence marks r.1, r.2)
          else if block && startsWith tokens [.blockSequenceStart] then
            (readItems declared fuel tokens.tail).map fun r => (.sequence marks r.1, r.2)
          else if block && startsWith tokens [.blockMappingStart] then
            (readPairs declared fuel tokens.tail).map fun r => (.mapping marks r.1, r.2)
          else if marks.anchor?.isSome || marks.tag?.isSome then
            some (.scalar marks [] true, tokens)
          else none

/-- Reads a node that is absent in front of certain tokens. -/
def readUnless (declared : TagHandle) :
    Nat → Bool → Bool → List Token → List Token → Option (Node × List Token)
  | 0, _, _, _, _ => none
  | fuel + 1, block, indentless, ends, tokens =>
    if startsWith tokens ends then some (.absent, tokens)
    else read declared fuel block indentless tokens

/-- Reads the entries of a block sequence up to its end. -/
def readItems (declared : TagHandle) : Nat → List Token → Option (List Node × List Token)
  | 0, _ => none
  | fuel + 1, tokens =>
    match tokens with
    | .blockEnd :: rest => some ([], rest)
    | .blockEntry :: rest =>
      match readUnless declared fuel true false [.blockEntry, .blockEnd] rest with
      | none => none
      | some (item, rest) => (readItems declared fuel rest).map fun r => (item :: r.1, r.2)
    | _ => none

/-- Reads the entries of a sequence without a block of its own. -/
def readIndentless (declared : TagHandle) : Nat → List Token → Option (List Node × List Token)
  | 0, _ => none
  | fuel + 1, tokens =>
    match tokens with
    | .blockEntry :: rest =>
      match readUnless declared fuel true false [.blockEntry, .key, .value, .blockEnd] rest with
      | none => none
      | some (item, rest) => (readIndentless declared fuel rest).map fun r => (item :: r.1, r.2)
    | tokens => some ([], tokens)

/-- Reads the pairs of a block mapping up to its end. -/
def readPairs (declared : TagHandle) :
    Nat → List Token → Option (List (Node × Node) × List Token)
  | 0, _ => none
  | fuel + 1, tokens =>
    let ends : List Token := [.key, .value, .blockEnd]
    let key? := match tokens with
      | .blockEnd :: _ => none
      | .key :: rest => readUnless declared fuel true true ends rest
      | .value :: rest => some (.absent, .value :: rest)
      | _ => none
    match tokens, key? with
    | .blockEnd :: rest, _ => some ([], rest)
    | _, some (key, .value :: rest) =>
      match readUnless declared fuel true true ends rest with
      | none => none
      | some (value, rest) => (readPairs declared fuel rest).map fun r => ((key, value) :: r.1, r.2)
    | _, some (key, rest) =>
      (readPairs declared fuel rest).map fun r => ((key, .absent) :: r.1, r.2)
    | _, none => none

/-- Reads the items of a flow sequence up to its end; each but the first stands behind a comma. -/
def readFlowItems (declared : TagHandle) :
    Nat → Bool → List Token → Option (List Node × List Token)
  | 0, _, _ => none
  | fuel + 1, first, tokens =>
    let item? := match first, tokens with
      | true, tokens => some tokens
      | false, .flowEntry :: rest => some rest
      | false, _ => none
    match tokens, item? with
    | .flowSequenceEnd :: rest, _ => some ([], rest)
    | _, some (.flowSequenceEnd :: rest) => some ([], rest)
    | _, some (.key :: rest) =>
      match readFlowPair declared fuel rest with
      | none => none
      | some (pair, rest) =>
        (readFlowItems declared fuel false rest).map fun r =>
          (.mapping ⟨none, none⟩ [pair] :: r.1, r.2)
    | _, some rest =>
      match read declared fuel false false rest with
      | none => none
      | some (item, rest) =>
        (readFlowItems declared fuel false rest).map fun r => (item :: r.1, r.2)
    | _, none => none

/-- Reads a pair of a flow sequence behind the mark of its key. What stands in the stead of a key is
    passed over. -/
def readFlowPair (declared : TagHandle) :
    Nat → List Token → Option ((Node × Node) × List Token)
  | 0, _ => none
  | fuel + 1, tokens =>
    let key? :=
      if startsWith tokens [.value, .flowEntry, .flowSequenceEnd] then
        some (Node.absent, tokens.tail)
      else read declared fuel false false tokens
    match key? with
    | none => none
    | some (key, .value :: rest) =>
      (readUnless declared fuel false false [.flowEntry, .flowSequenceEnd] rest).map fun r =>
        ((key, r.1), r.2)
    | some (key, rest) => some ((key, .absent), rest)

/-- Reads the pairs of a flow mapping up to its end; each but the first stands behind a comma. -/
def readFlowPairs (declared : TagHandle) :
    Nat → Bool → List Token → Option (List (Node × Node) × List Token)
  | 0, _, _ => none
  | fuel + 1, first, tokens =>
    let pair? := match first, tokens with
      | true, tokens => some tokens
      | false, .flowEntry :: rest => some rest
      | false, _ => none
    match tokens, pair? with
    | .flowMappingEnd :: rest, _ => some ([], rest)
    | _, some (.flowMappingEnd :: rest) => some ([], rest)
    | _, some (.key :: rest) =>
      match readUnless declared fuel false false [.value, .flowEntry, .flowMappingEnd] rest with
      | none => none
      | some (key, rest) => readFlowValue declared fuel key rest
    | _, some (.value :: rest) => readFlowValue declared fuel .absent (.value :: rest)
    | _, some rest =>
      match read declared fuel false false rest with
      | none => none
      | some (key, rest) =>
        (readFlowPairs declared fuel false rest).map fun r => ((key, .absent) :: r.1, r.2)
    | _, none => none

/-- Reads the value behind a key of a flow mapping, and the pairs behind it. -/
def readFlowValue (declared : TagHandle) :
    Nat → Node → List Token → Option (List (Node × Node) × List Token)
  | 0, _, _ => none
  | fuel + 1, key, tokens =>
    let value? := match tokens with
      | .value :: rest => readUnless declared fuel false false [.flowEntry, .flowMappingEnd] rest
      | tokens => some (.absent, tokens)
    match value? with
    | none => none
    | some (value, rest) =>
      (readFlowPairs declared fuel false rest).map fun r => ((key, value) :: r.1, r.2)

end

/-! ## Documents -/

/-- Reads the directives in front of a document; the version may be given once. -/
def readDirectives (versioned : Bool) (declared : TagHandle) :
    List Token → Option (TagHandle × List Token)
  | .versionDirective _ _ :: rest => if versioned then none else readDirectives true none rest
  | .tagDirective handle lead :: rest => readDirectives versioned (some (handle, lead)) rest
  | tokens => some (declared, tokens)

/-- Reads the root of a document behind its start. -/
def readRoot (declared : TagHandle) (tokens : List Token) : Option (Node × List Token) :=
  match tokens with
  | [] => some (absent, [])
  | .versionDirective _ _ :: _ => some (absent, tokens)
  | .tagDirective _ _ :: _ => some (absent, tokens)
  | .documentStart :: _ => some (absent, tokens)
  | .documentEnd :: _ => some (absent, tokens)
  | tokens => read declared (4 * tokens.length + 4) true false tokens

/-- Reads a document that begins with directives or a marker. -/
def readExplicit (tokens : List Token) : Option (Node × List Token) :=
  match readDirectives false none tokens with
  | some (declared, .documentStart :: rest) => readRoot declared rest
  | _ => none

/-- Whether tokens begin a document with directives or a marker. -/
def beginsExplicit : List Token → Bool
  | .versionDirective _ _ :: _ => true
  | .tagDirective _ _ :: _ => true
  | .documentStart :: _ => true
  | _ => false

/-- Whether tokens begin with a directive. -/
def beginsDirective : List Token → Bool
  | .versionDirective _ _ :: _ => true
  | .tagDirective _ _ :: _ => true
  | _ => false

/-- Reads documents. The next one needs no marker if `bare`, which holds at the start and behind the
    end of a document; a directive needs that end before it. The fuel exceeds the number of
    tokens. -/
def readDocuments : Nat → Bool → List Token → Option (List Node)
  | 0, _, _ => none
  | fuel + 1, bare, tokens =>
    match tokens.dropWhile (· = .documentEnd) with
    | [] => some []
    | tokens =>
      let root? :=
        if bare && !beginsExplicit tokens then
          read none (4 * tokens.length + 4) true false tokens
        else readExplicit tokens
      match root? with
      | none => none
      | some (root, .documentEnd :: rest) => (readDocuments fuel true rest).map (root :: ·)
      | some (root, rest) =>
        if beginsDirective rest then none else (readDocuments fuel false rest).map (root :: ·)

/-- The roots of the documents in a stream of tokens. -/
def documents? (tokens : List Token) : Option (List Node) :=
  readDocuments (tokens.length + 1) true tokens

end Node

end ResourceModel.Yaml12

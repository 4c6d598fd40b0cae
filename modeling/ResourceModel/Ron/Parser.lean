import ResourceModel.Ron.Number

set_option autoImplicit false

/-! # Settings in RON

A reader for nested structures, lists and maps of values. The name of a structure does not count.
Structures, lists, maps and what they hold lie in each other only so deep. -/

namespace ResourceModel.Ron

/-! ## Values -/

/-- The words for values, and what they stand for. -/
def words : List (String × Setting) :=
  [("true", .truth true), ("false", .truth false), ("None", .absent)]

/-- Reads a word for a value. -/
def word? (text : List Char) : Option (Setting × List Char) :=
  (words.findSome? fun row => (wordEnd? row.1 text).map fun rest => (row.2, rest)).or
    (fractionWord? text)

/-- Reads a key between braces. -/
def key? (text : List Char) : Option (String × List Char) :=
  (string? text).or (character? text)

/-- Reads a value that holds no others and is no word. -/
def scalar? (text : List Char) : Option (Setting × List Char) :=
  ((key? text).map fun (value, rest) => (.text value, rest)).or (number? text)

/-- Whether what stands between parentheses has keys; none if that cannot be told. -/
def hasKeys? (text : List Char) : Option Bool :=
  match name? text with
  | none => some false
  | some (_, rest) => ((skipGap? rest).bind List.head?).map (· = ':')

mutual

/-- Reads a value with room for `room` levels inside it. The fuel is more than twice the length of
    the text. -/
def readValue : Nat → Nat → List Char → Option (Setting × List Char)
  | 0, _, _ => none
  | fuel + 1, room, text =>
    match word? text, wordEnd? "Some" text with
    | some read, _ => some read
    | none, some rest => readSome fuel room rest
    | none, none =>
      match text with
      | '(' :: ')' :: rest => some (.absent, rest)
      | '(' :: rest => readGroup fuel room rest
      | '[' :: rest =>
        match room, skipGap? rest with
        | room + 1, some rest =>
          (readItems fuel room ']' rest).map fun (items, rest) => (.list items, rest)
        | _, _ => none
      | '\x7b' :: rest =>
        match room, skipGap? rest with
        | room + 1, some rest =>
          (readRows fuel room '\x7d' rest).map fun (rows, rest) =>
            (.table (Table.ofRows rows), rest)
        | _, _ => none
      | text =>
        match name? text with
        | none => scalar? text
        | some (_, rest) =>
          match skipGap? rest with
          | some ('(' :: rest) => readGroup fuel room rest
          | some rest => some (.absent, rest)
          | none => none

/-- Reads the value that may be missing, behind the word that says that it is not. -/
def readSome : Nat → Nat → List Char → Option (Setting × List Char)
  | 0, _, _ => none
  | _, 0, _ => none
  | fuel + 1, room + 1, text =>
    match skipGap? text with
    | some ('(' :: rest) =>
      match (skipGap? rest).bind (readValue fuel room) with
      | none => none
      | some (value, rest) =>
        match comma? rest with
        | some (_, ')' :: rest) => some (value, rest)
        | _ => none
    | _ => none

/-- Reads what stands between parentheses: rows, or items without keys. -/
def readGroup : Nat → Nat → List Char → Option (Setting × List Char)
  | 0, _, _ => none
  | _, 0, _ => none
  | fuel + 1, room + 1, text =>
    match skipGap? text with
    | none => none
    | some text =>
      match hasKeys? text with
      | none => none
      | some false => (readItems fuel room ')' text).map fun (items, rest) => (.list items, rest)
      | some true =>
        (readRows fuel room ')' text).map fun (rows, rest) => (.table (Table.ofRows rows), rest)

/-- Reads items up to the closing mark. -/
def readItems : Nat → Nat → Char → List Char → Option (List Setting × List Char)
  | 0, _, _, _ => none
  | fuel + 1, room, close, text =>
    if text.head? = some close then some ([], text.tail)
    else match room with
      | 0 => none
      | inner + 1 =>
        match readValue fuel inner text with
        | none => none
        | some (item, rest) =>
          match comma? rest with
          | none => none
          | some (comma, rest) =>
            if comma || rest.head? = some close then
              (readItems fuel room close rest).map fun (items, rest) => (item :: items, rest)
            else none

/-- Reads rows up to the closing mark. Between parentheses keys are names. -/
def readRows : Nat → Nat → Char → List Char → Option (List (String × Setting) × List Char)
  | 0, _, _, _ => none
  | fuel + 1, room, close, text =>
    if text.head? = some close then some ([], text.tail)
    else match room, if close = ')' then name? text else key? text with
      | inner + 1, some (key, rest) =>
        match skipGap? rest with
        | some (':' :: rest) =>
          match (skipGap? rest).bind (readValue fuel inner) with
          | none => none
          | some (value, rest) =>
            match comma? rest with
            | none => none
            | some (comma, rest) =>
              if comma || rest.head? = some close then
                (readRows fuel room close rest).map fun (rows, rest) => ((key, value) :: rows, rest)
              else none
        | _ => none
      | _, _ => none

end

/-! ## Documents -/

/-- The names of extensions. They change nothing in settings. -/
def extensions : List String :=
  ["unwrap_newtypes", "implicit_some", "unwrap_variant_newtypes"]

/-- What follows marks with gaps behind each. -/
def marksEnd? : List String → List Char → Option (List Char)
  | [], text => some text
  | mark :: rest, text =>
    match (Text.after? mark.toList text).bind skipGap? with
    | some text => marksEnd? rest text
    | none => none

/-- What follows the names of extensions between commas. The fuel is more than the length of the
    text. -/
def extensionsEnd? : Nat → List Char → Option (List Char)
  | 0, _ => none
  | fuel + 1, text =>
    match name? text with
    | none => none
    | some (name, rest) =>
      if !extensions.contains name then none
      else match comma? rest with
        | none => none
        | some (comma, rest) =>
          if comma && rest.head?.any isNameChar then extensionsEnd? fuel rest else some rest

/-- What follows the lines at the start of a text that enable extensions. The fuel is more than the
    length of the text. -/
def attributesEnd? : Nat → List Char → Option (List Char)
  | 0, _ => none
  | fuel + 1, text =>
    if text.head? ≠ some '#' then some text
    else
      let rest := (marksEnd? ["#", "!", "[", "enable", "("] text).bind fun rest =>
        (extensionsEnd? (rest.length + 1) rest).bind (marksEnd? [")", "]"])
      match rest with
      | some rest => attributesEnd? fuel rest
      | none => none

/-- The number of levels that a document may have. -/
def levelLimit : Nat := 128

/-- The rows of the structure or map that a text has to be. -/
def parse (text : String) : Option (List (String × Setting)) :=
  let chars := text.toList
  match ((skipGap? chars).bind (attributesEnd? (chars.length + 1))).bind
      (readValue (3 * chars.length + 3) levelLimit) with
  | some (.table rows, rest) => if skipGap? rest = some [] then some rows else none
  | _ => none

end ResourceModel.Ron

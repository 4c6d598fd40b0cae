import ResourceModel.Toml.Item
import ResourceModel.Toml.Scalar
import ResourceModel.Toml.Text

set_option autoImplicit false

/-! # Reading TOML documents

A document is read line by line into its tables. Anything that the format does not allow, also a
table or key that is given twice, makes the whole document unreadable. -/

namespace ResourceModel.Toml

/-! ## Values -/

mutual

/-- Reads a value that lies in `depth` lists and tables. The fuel is at least the length of the
    text. -/
def readValue : Nat → Nat → List Char → Option (Setting × List Char)
  | 0, _, _ => none
  | fuel + 1, depth, text =>
    match text with
    | '[' :: rest =>
      if depth + 1 < nestingLimit then
        match skipGaps false rest with
        | ']' :: rest => some (.list [], rest)
        | rest => (readItems fuel (depth + 1) rest).map fun read => (.list read.1, read.2)
      else none
    | '\x7b' :: rest =>
      if depth + 1 < nestingLimit then
        match skipBlanks rest with
        | '\x7d' :: rest => some (.table [], rest)
        | rest => (readRows fuel (depth + 1) Item.empty rest).map fun read =>
            (read.1.setting, read.2)
      else none
    | text =>
      match text.head? with
      | some '"' => (string? text).map fun read => (.text (String.ofList read.1), read.2)
      | some '\'' => (string? text).map fun read => (.text (String.ofList read.1), read.2)
      | _ => scalar? text

/-- Reads the items of a list up to its end. -/
def readItems : Nat → Nat → List Char → Option (List Setting × List Char)
  | 0, _, _ => none
  | fuel + 1, depth, text =>
    match readValue fuel depth text with
    | none => none
    | some (item, rest) =>
      match skipGaps false rest with
      | ']' :: rest => some ([item], rest)
      | ',' :: rest =>
        match skipGaps false rest with
        | ']' :: rest => some ([item], rest)
        | rest => (readItems fuel depth rest).map fun read => (item :: read.1, read.2)
      | _ => none

/-- Reads the rows of a table on one line up to its end. -/
def readRows : Nat → Nat → Item → List Char → Option (Item × List Char)
  | 0, _, _, _ => none
  | fuel + 1, depth, item, text =>
    match keys? text with
    | some (keys, '=' :: rest) =>
      match readValue fuel depth (skipBlanks rest) with
      | none => none
      | some (value, rest) =>
        match item.assign keys value, skipBlanks rest with
        | some item, '\x7d' :: rest => some (item, rest)
        | some item, ',' :: rest => readRows fuel depth item rest
        | _, _ => none
    | _ => none

end

/-! ## Documents -/

/-- What has been read of a document: its tables, and the path of the table that rows are given
    to. -/
structure Reading where
  root : Item
  path : List String

/-- Reads a row. -/
def readRow (reading : Reading) (text : List Char) : Option (Reading × List Char) :=
  match keys? text with
  | some (keys, '=' :: rest) =>
    match readValue (rest.length + 1) 0 (skipBlanks rest) with
    | none => none
    | some (value, rest) =>
      (Item.change false (Item.assign keys value) reading.path reading.root).map fun root =>
        ({ reading with root }, rest)
  | _ => none

/-- Reads the heading of a table. -/
def readHeading (reading : Reading) (text : List Char) : Option (Reading × List Char) :=
  match keys? text with
  | some (keys, ']' :: rest) =>
    (Item.atPath Item.define keys reading.root).map fun root => (⟨root, keys⟩, rest)
  | _ => none

/-- Reads the heading of a table of a list. -/
def readListHeading (reading : Reading) (text : List Char) : Option (Reading × List Char) :=
  match keys? text with
  | some (keys, ']' :: ']' :: rest) =>
    (Item.atPath Item.append keys reading.root).map fun root => (⟨root, keys⟩, rest)
  | _ => none

/-- Reads what a line holds. -/
def readLine (reading : Reading) (text : List Char) : Option (Reading × List Char) :=
  match text with
  | [] => some (reading, [])
  | '#' :: _ => some (reading, text)
  | '\n' :: _ => some (reading, text)
  | '\r' :: _ => some (reading, text)
  | '[' :: '[' :: rest => readListHeading reading rest
  | '[' :: rest => readHeading reading rest
  | text => readRow reading text

/-- Reads lines up to the end of a text. The fuel is more than the length of the text. -/
def readLines : Nat → Reading → List Char → Option Item
  | 0, _, _ => none
  | fuel + 1, reading, text =>
    if text.isEmpty then some reading.root
    else match readLine reading (skipBlanks text) with
      | none => none
      | some (reading, rest) => (endLine? rest).bind (readLines fuel reading)

/-- The rows of the settings that a document gives. -/
def parse (text : String) : Option (List (String × Setting)) :=
  let chars := match text.toList with
    | '\ufeff' :: rest => rest
    | chars => chars
  match readLines (chars.length + 1) ⟨Item.empty, []⟩ chars with
  | some item =>
    match item.setting with
    | .table rows => some rows
    | _ => none
  | none => none

end ResourceModel.Toml

import ResourceModel.Config.Setting
import ResourceModel.Yaml12.Node

set_option autoImplicit false

/-! # Settings in a document of YAML 1.2

The settings that a document gives. A plain scalar may spell null, a truth value or a number. The
keys of a mapping are texts or integers, each given once. -/

namespace ResourceModel.Yaml12

/-! ## Scalars -/

/-- The integer of a base that a text spells, with or without a sign. -/
def integerOf? (base : Nat) (text : List Char) : Option Int :=
  let (negative, digits) := match text with
    | '-' :: rest => (true, rest)
    | '+' :: rest => (false, rest)
    | rest => (false, rest)
  Decimal.integer? base negative digits

/-- The integer that a plain scalar spells: hexadecimal, octal or decimal. -/
def plainInteger? : List Char → Option Int
  | '0' :: 'x' :: digits => integerOf? 16 digits
  | '0' :: 'o' :: digits => integerOf? 8 digits
  | '+' :: digits => integerOf? 10 digits
  | text => integerOf? 10 text

/-- The words for fractions without bound or value that are numbers but not read as such. -/
def unreadWords : List String :=
  [".inf", ".Inf", ".INF", "+.inf", "+.Inf", "+.INF", "-.inf", "-.Inf", "-.INF", ".nan", ".NAN"]

/-- What a scalar gives: the setting, which is none where it is wanted to be something else, and the
    key that it stands for. -/
inductive Content where
  | bad
  | absent
  | text (value : String)
  | integer (value : Int)
  | other (setting : Setting)

namespace Content

/-- The setting that a content is. -/
def setting : Content → Setting
  | bad => .absent
  | absent => .absent
  | text value => .text value
  | integer value => .integer value
  | other setting => setting

/-- The fraction that a scalar spells; none if it is a number that is not read as such. -/
def ofFraction? (text : String) (otherwise : Content) : Option Content :=
  if unreadWords.contains text then none
  else match Fraction.ofText? text with
    | some value => some (other (.fraction value))
    | none => some otherwise

/-- The content of a plain scalar without a tag. -/
def ofPlain? (chars : List Char) : Option Content :=
  let word := String.ofList chars
  match plainInteger? chars with
  | some value => some (integer value)
  | none =>
    if word = "~" ∨ word = "null" then some absent
    else if word = "true" then some (other (.truth true))
    else if word = "false" then some (other (.truth false))
    else ofFraction? word (text word)

/-- The content of a plain scalar with a tag of the core schema. -/
def ofCore? (name : String) (chars : List Char) : Option Content :=
  let word := String.ofList chars
  if name = "bool" then
    if word = "true" then some (other (.truth true))
    else if word = "false" then some (other (.truth false))
    else some bad
  else if name = "int" then some ((integerOf? 10 chars).elim bad integer)
  else if name = "float" then ofFraction? word bad
  else if name = "null" then some (if word = "~" ∨ word = "null" then absent else bad)
  else some (text word)

/-- The content of a scalar. -/
def ofScalar? (tag : Option Tag) (chars : List Char) (plain : Bool) : Option Content :=
  if !plain then some (text (String.ofList chars))
  else match tag with
    | none => ofPlain? chars
    | some tag =>
      if tag.lead = coreLead then ofCore? (String.ofList tag.suffix) chars
      else some (text (String.ofList chars))

/-- The name of the row that a content is the key of; none if it is neither a text nor an integer.
    -/
def rowName? : Content → Option String
  | text value => some value
  | integer value => some (Number.text (.integer value))
  | _ => none

/-- Whether two contents are the same key. -/
def isSameKey : Content → Content → Bool
  | text a, text b => a = b
  | integer a, integer b => a = b
  | _, _ => false

end Content

/-! ## Mappings -/

/-- The pairs of a mapping while they are read: the pairs so far, the last one first, and the key
    that waits for its value. -/
structure Pairing where
  pairs : List (Content × Content)
  key : Content

/-- The pairs with a node more: it is a key if none waits. A bad key does not wait. A key is not
    given twice. -/
def Pairing.next? (pairing : Pairing) (content : Content) : Option Pairing :=
  match pairing.key with
  | .bad => some { pairing with key := content }
  | key =>
    if pairing.pairs.any fun pair => pair.1.isSameKey key then none
    else some ⟨(key, content) :: pairing.pairs, .bad⟩

/-- The content of a mapping with keys and values in turn. -/
def mappingOf? (contents : List Content) : Option Content := do
  let pairing ← contents.foldlM Pairing.next? ⟨[], .bad⟩
  let rows ← pairing.pairs.reverse.mapM fun pair =>
    pair.1.rowName?.map fun name => (name, pair.2.setting)
  return .other (.table (Table.ofRows rows))

/-! ## Anchors -/

/-- The anchors met so far: the number of each name, and the contents of the nodes that have ended.
    -/
structure Anchors where
  names : List (List Char × Nat)
  contents : List (Nat × Content)
  count : Nat

namespace Anchors

/-- No anchors. -/
def empty : Anchors := ⟨[], [], 0⟩

/-- The anchors at the start of a node, and the number of its anchor. -/
def enter (anchors : Anchors) (marks : NodeMarks) : Anchors × Option Nat :=
  match marks.anchor? with
  | none => (anchors, none)
  | some name =>
    let number := anchors.count
    ({ anchors with names := (name, number) :: anchors.names, count := number + 1 }, some number)

/-- The anchors behind a node. -/
def leave (anchors : Anchors) (number : Option Nat) (content : Content) : Anchors :=
  match number with
  | none => anchors
  | some number => { anchors with contents := (number, content) :: anchors.contents }

/-- The content that an alias stands for, which is bad inside the node itself; none if no node has
    the name. -/
def find? (anchors : Anchors) (name : List Char) : Option Content :=
  (List.lookup name anchors.names).map fun number =>
    (List.lookup number anchors.contents).getD .bad

end Anchors

mutual

/-- The content of a node. -/
def contentOf? (anchors : Anchors) : Node → Option (Content × Anchors)
  | .absent => some (.absent, anchors)
  | .alias name => (anchors.find? name).map fun content => (content, anchors)
  | .scalar marks text plain =>
    let (inside, number) := anchors.enter marks
    (Content.ofScalar? marks.tag? text plain).map fun content =>
      (content, inside.leave number content)
  | .sequence marks items =>
    let (inside, number) := anchors.enter marks
    (contentsOf? inside items).map fun (contents, inside) =>
      let content := Content.other (.list (contents.map Content.setting))
      (content, inside.leave number content)
  | .mapping marks pairs =>
    let (inside, number) := anchors.enter marks
    (pairContents? inside pairs).bind fun (contents, inside) =>
      (mappingOf? contents).map fun content => (content, inside.leave number content)

/-- The contents of items. -/
def contentsOf? (anchors : Anchors) : List Node → Option (List Content × Anchors)
  | [] => some ([], anchors)
  | item :: rest =>
    match contentOf? anchors item with
    | none => none
    | some (content, anchors) =>
      (contentsOf? anchors rest).map fun (contents, anchors) => (content :: contents, anchors)

/-- The contents of keys and values in turn. -/
def pairContents? (anchors : Anchors) : List (Node × Node) → Option (List Content × Anchors)
  | [] => some ([], anchors)
  | (key, value) :: rest =>
    match contentOf? anchors key with
    | none => none
    | some (key, anchors) =>
      match contentOf? anchors value with
      | none => none
      | some (value, anchors) =>
        (pairContents? anchors rest).map fun (contents, anchors) =>
          (key :: value :: contents, anchors)

end

/-- The rows of the mapping that the one document of a text has to be. A text without documents has
    none. -/
def parse (text : String) : Option (List (String × Setting)) :=
  match (tokens? text).bind Node.documents? with
  | some [] => some []
  | some [root] =>
    match contentOf? .empty root with
    | some (.other (.table rows), _) => some rows
    | _ => none
  | _ => none

end ResourceModel.Yaml12

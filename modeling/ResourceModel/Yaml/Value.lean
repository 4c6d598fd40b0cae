import ResourceModel.Decimal.Reading
import ResourceModel.Json.Basic
import ResourceModel.Yaml.Node

set_option autoImplicit false

/-! # Values of a YAML document

The structured value that a document denotes. A plain scalar may spell null, a truth value or a
number; keys are texts; an alias stands for the node with its anchor. -/

namespace ResourceModel.Yaml

/-! ## Plain scalars -/

/-- Whether a text spells null. -/
def isNull (text : String) : Bool :=
  ["null", "Null", "NULL", "~"].contains text

/-- The truth value that a text spells. -/
def truth? (text : String) : Option Bool :=
  if ["true", "True", "TRUE"].contains text then some true
  else if ["false", "False", "FALSE"].contains text then some false
  else none

/-- Whether a text has a needless leading zero and so is no number. -/
def hasLeadingZero (text : List Char) : Bool :=
  let digits := match text with
    | '-' :: rest => rest
    | '+' :: rest => rest
    | text => text
  match digits with
  | '0' :: d :: rest => (d :: rest).all Char.isDigit
  | _ => false

/-- The number behind the mark of a base other than ten. -/
def basedNatural? : List Char → Option Nat
  | '0' :: 'x' :: digits => Decimal.natural? 16 digits
  | '0' :: 'o' :: digits => Decimal.natural? 8 digits
  | '0' :: 'b' :: digits => Decimal.natural? 2 digits
  | _ => none

/-- The integer that a text spells. -/
def integer? (text : List Char) : Option Int :=
  match text with
  | '-' :: rest =>
    match basedNatural? rest with
    | some n => some (-n)
    | none =>
      if hasLeadingZero text then none else (Decimal.natural? 10 rest).map fun n => -(n : Int)
  | '+' :: rest =>
    match basedNatural? rest with
    | some n => some n
    | none =>
      if hasLeadingZero text then none else (Decimal.natural? 10 rest).map fun n => (n : Int)
  | text =>
    match basedNatural? text with
    | some n => some n
    | none =>
      if hasLeadingZero text then none else (Decimal.natural? 10 text).map fun n => (n : Int)

/-- Whether an integer fits into 128 bits. -/
def fitsWide (n : Int) : Bool :=
  -(Nat.pow 2 127) ≤ n && n < Nat.pow 2 128

/-- What a text spells as a fraction: a number, or null for what is not finite. -/
def fraction? (text : List Char) : Option Json :=
  let unsigned := match text with
    | '+' :: rest => rest
    | text => text
  if [".inf", ".Inf", ".INF"].contains (String.ofList unsigned) then some .null
  else if ["-.inf", "-.Inf", "-.INF", ".nan", ".NaN", ".NAN"].contains (String.ofList text) then
    some .null
  else match text, unsigned with
    | '+' :: _, '-' :: _ => none
    | '+' :: _, '+' :: _ => none
    | _, unsigned => (Decimal.finite? unsigned).map fun x => .number (.float x)

/-- The value of an integer; none if it does not fit into 64 bits. -/
def integerValue? (n : Int) : Option Json :=
  if Number.fits n then some (.number (.integer n)) else none

/-- The value of a plain scalar without a tag; none for an integer that fits into 128 bits but not
    into 64. -/
def plainValue? (text : List Char) : Option Json :=
  let word := String.ofList text
  if text.isEmpty || isNull word then some .null
  else match truth? word with
    | some b => some (.bool b)
    | none =>
      match (integer? text).filter fitsWide with
      | some n => integerValue? n
      | none =>
        if hasLeadingZero text then some (.string word)
        else some ((fraction? text).getD (.string word))

/-- The tag of the core schema with a name. -/
def coreTag (name : String) : List Char :=
  ("tag:yaml.org,2002:" ++ name).toList

/-- The value of a scalar; none if its tag does not fit. -/
def scalarValue? (tag : Option (List Char)) (text : List Char) (plain : Bool) : Option Json :=
  let word := String.ofList text
  match tag with
  | none => if plain then plainValue? text else some (.string word)
  | some tag =>
    if tag.head? = some '!' then none
    else if tag = coreTag "bool" then (truth? word).map .bool
    else if tag = coreTag "int" then ((integer? text).filter fitsWide).bind integerValue?
    else if tag = coreTag "float" then fraction? text
    else if tag = coreTag "null" then if isNull word then some .null else none
    else some (.string word)

/-! ## Anchors -/

/-- A node whose aliases are numbers of anchors. -/
inductive Bound where
  | scalar (tag? : Option (List Char)) (text : List Char) (plain : Bool)
  | sequence (tag? : Option (List Char)) (items : List Bound)
  | mapping (tag? : Option (List Char)) (pairs : List (Bound × Bound))
  | alias (number : Nat)
  deriving Inhabited

/-- A node with an anchor: the number of the anchor, the number of events before the node, and the
    node. -/
structure Anchored where
  number : Nat
  position : Nat
  node : Bound

/-- The anchors met so far: the number of each name, the number of events, and the anchored nodes.
    A node has one event if it is a scalar or an alias and two otherwise. -/
structure Anchors where
  names : List (List Char × Nat)
  events : Nat
  nodes : List Anchored

namespace Anchors

/-- No anchors. -/
def empty : Anchors := ⟨[], 0, []⟩

/-- The anchors at the start of a node, and the number of its anchor. The number is that of the
    different names so far, also for a name that is given again. -/
def enter (anchors : Anchors) (marks : NodeMarks) : Anchors × Option Nat :=
  match marks.anchor? with
  | none => (anchors, none)
  | some name =>
    let number := anchors.names.length
    ({ anchors with names := (name, number) :: anchors.names.filter (·.1 ≠ name) }, some number)

/-- The anchors behind a node that began at a position. -/
def leave (anchors : Anchors) (number : Option Nat) (position events : Nat) (node : Bound) :
    Anchors :=
  { anchors with
    events := anchors.events + events
    nodes := (number.map fun n => ⟨n, position, node⟩).toList ++ anchors.nodes }

/-- The anchored node with a number; of several the one that begins last. -/
def node? (anchors : Anchors) (number : Nat) : Option Bound :=
  let found := anchors.nodes.filter (·.number = number)
  (found.foldl (fun best next =>
    match best with
    | none => some next
    | some b => if b.position < next.position then some next else some b) none).map (·.node)

end Anchors

mutual

/-- Replaces the aliases in a node by numbers; none if an alias has no anchor before it. -/
def bindNode (anchors : Anchors) : Node → Option (Bound × Anchors)
  | .scalar marks text plain =>
    let (inside, number) := anchors.enter marks
    let node := Bound.scalar marks.tag? text plain
    some (node, inside.leave number anchors.events 1 node)
  | .sequence marks items =>
    let (inside, number) := anchors.enter marks
    (bindItems { inside with events := inside.events + 1 } items).map fun (items, inside) =>
      let node := Bound.sequence marks.tag? items
      (node, inside.leave number anchors.events 1 node)
  | .mapping marks pairs =>
    let (inside, number) := anchors.enter marks
    (bindPairs { inside with events := inside.events + 1 } pairs).map fun (pairs, inside) =>
      let node := Bound.mapping marks.tag? pairs
      (node, inside.leave number anchors.events 1 node)
  | .alias name =>
    (anchors.names.find? (·.1 = name)).map fun row =>
      (.alias row.2, { anchors with events := anchors.events + 1 })

/-- Replaces the aliases in items. -/
def bindItems (anchors : Anchors) : List Node → Option (List Bound × Anchors)
  | [] => some ([], anchors)
  | item :: rest =>
    match bindNode anchors item with
    | none => none
    | some (item, anchors) =>
      (bindItems anchors rest).map fun (rest, anchors) => (item :: rest, anchors)

/-- Replaces the aliases in pairs. -/
def bindPairs (anchors : Anchors) : List (Node × Node) → Option (List (Bound × Bound) × Anchors)
  | [] => some ([], anchors)
  | (key, value) :: rest =>
    match bindNode anchors key with
    | none => none
    | some (key, anchors) =>
      match bindNode anchors value with
      | none => none
      | some (value, anchors) =>
        (bindPairs anchors rest).map fun (rest, anchors) => ((key, value) :: rest, anchors)

end

/-! ## Values -/

/-- The greatest number of collections around a value. -/
def depthLimit : Nat := 128

/-- Whether a collection has a tag of its own, which no structured value has. -/
def hasLocalTag (tag : Option (List Char)) : Bool :=
  tag.any fun text => text.head? == some '!'

/-- The node that a node stands for. Counts the aliases that were followed; none if they are more
    than a hundred for each event. -/
def target? (anchors : Anchors) (jumps : Nat) : Bound → Option (Bound × Nat)
  | .alias number =>
    if anchors.events * 100 ≤ jumps then none
    else (anchors.node? number).map (·, jumps + 1)
  | node => some (node, jumps)

/-- The text of a key. -/
def key? (anchors : Anchors) (jumps : Nat) (node : Bound) : Option (String × Nat) :=
  match target? anchors jumps node with
  | some (.scalar _ text _, jumps) => some (String.ofList text, jumps)
  | _ => none

/-- Answers for every item in turn, handing on a count. -/
def eachItem {α : Type} (read : Nat → Bound → Option (α × Nat)) :
    Nat → List Bound → Option (List α × Nat)
  | jumps, [] => some ([], jumps)
  | jumps, item :: rest =>
    match read jumps item with
    | none => none
    | some (value, jumps) => (eachItem read jumps rest).map fun r => (value :: r.1, r.2)

/-- Answers for every pair in turn, handing on a count. -/
def eachPair {α : Type} (anchors : Anchors) (read : Nat → Bound → Option (α × Nat)) :
    Nat → List (Bound × Bound) → Option (List (String × α) × Nat)
  | jumps, [] => some ([], jumps)
  | jumps, (key, value) :: rest =>
    match key? anchors jumps key with
    | none => none
    | some (key, jumps) =>
      match read jumps value with
      | none => none
      | some (value, jumps) =>
        (eachPair anchors read jumps rest).map fun r => ((key, value) :: r.1, r.2)

/-- The value of a node that may hold collections of the given depth. -/
def value? (anchors : Anchors) (depth jumps : Nat) (node : Bound) : Option (Json × Nat) :=
  match target? anchors jumps node with
  | some (.scalar tag text plain, jumps) => (scalarValue? tag text plain).map (·, jumps)
  | some (.sequence tag items, jumps) =>
    match hasLocalTag tag, depth with
    | false, depth + 1 =>
      (eachItem (value? anchors depth) jumps items).map fun r => (.array r.1, r.2)
    | _, _ => none
  | some (.mapping tag pairs, jumps) =>
    match hasLocalTag tag, depth with
    | false, depth + 1 =>
      (eachPair anchors (value? anchors depth) jumps pairs).map fun r =>
        (.object (Table.ofRows r.1), r.2)
    | _, _ => none
  | _ => none

/-- The value of the document whose root is given. -/
def documentValue? (root : Node) : Option Json :=
  match bindNode .empty root with
  | some (node, anchors) => (value? anchors depthLimit 0 node).map (·.1)
  | none => none

/-- The value of a text with one document; null for an empty text. Several documents are an
    error. -/
def parse (text : String) : Option Json :=
  match (Token.ofText? text).bind Node.documents? with
  | some [] => some .null
  | some [root] => documentValue? root
  | _ => none

end ResourceModel.Yaml

import ResourceModel.Config.Setting

set_option autoImplicit false

/-! # Places of settings

A source gives each of its settings a place: a path of keys and of numbers of items. A setting at a
place goes over what is there. Keys are compared in lower case. -/

namespace ResourceModel

/-! ## Merging -/

namespace Setting

mutual

/-- The table with a value under a key. The rows of a table go over those that are there, any other
    value replaces what is there. What is no table becomes one. -/
def withRow (target : Setting) (key : String) : Setting → Setting
  | .table incoming =>
    let rows := target.rowsOrNone
    let old := (Table.get? rows (lowerText key)).getD (.table [])
    .table (Table.put rows (lowerText key) (withRows old incoming))
  | value => .table (Table.put target.rowsOrNone (lowerText key) value)

/-- The table with values under keys, one after the other. -/
def withRows (target : Setting) : List (String × Setting) → Setting
  | [] => target
  | (key, value) :: rest => withRows (withRow target key value) rest

end

/-- The items of a list; anything else has none. -/
def itemsOrNone : Setting → List Setting
  | list items => items
  | _ => []

end Setting

namespace Config

/-! ## Paths -/

/-- A step to the value under a key, or to an item of a list. A negative number counts from the end
    of the list. -/
inductive KeyStep where
  | key (name : String)
  | item (index : Int)
  deriving DecidableEq, Repr

namespace KeyStep

/-- Whether a character may stand in a key of a path. -/
def isKeyChar (c : Char) : Bool :=
  c.isAlphanum || c = ' ' || c = '_' || c = '-'

/-- Whether a character may stand around the number of an item. -/
def isGap (c : Char) : Bool :=
  c = ' ' || c = '\t'

/-- Reads a key. -/
def key? (text : List Char) : Option (KeyStep × List Char) :=
  let name := text.takeWhile isKeyChar
  if name.isEmpty then none else some (.key (String.ofList name), text.drop name.length)

/-- Reads the number of an item, which fits into 64 bits with its sign. -/
def index? (text : List Char) : Option (Int × List Char) :=
  let (negative, text) := match text with
    | '-' :: rest => (true, rest)
    | rest => (false, rest)
  let digits := text.takeWhile Char.isDigit
  (Decimal.integer? 10 negative digits).map fun index => (index, text.drop digits.length)

/-- Reads the number of an item up to its closing bracket. -/
def item? (text : List Char) : Option (KeyStep × List Char) :=
  match index? (text.dropWhile isGap) with
  | none => none
  | some (index, rest) =>
    match rest.dropWhile isGap with
    | ']' :: rest => some (.item index, rest)
    | _ => none

/-- Reads the steps behind a first one, up to the end of the text. The fuel is more than the length
    of the text. -/
def more? : Nat → List Char → Option (List KeyStep)
  | 0, _ => none
  | _, [] => some []
  | fuel + 1, c :: text =>
    match if c = '.' then key? text else if c = '[' then item? text else none with
    | some (step, rest) => (more? fuel rest).map (step :: ·)
    | none => none

/-- The steps that a text spells; a text that spells none is one key as it stands. -/
def ofText (text : String) : List KeyStep :=
  let steps := (key? text.toList).bind fun (first, rest) =>
    (more? (rest.length + 1) rest).map (first :: ·)
  steps.getD [.key text]

end KeyStep

/-! ## Settings at places -/

open Setting

/-- The items with room for the one of a number, and its place among them. Nothing stands in the
    items that are added. -/
def withRoom (items : List Setting) (index : Int) : List Setting × Nat :=
  match index with
  | .ofNat place => (items ++ List.replicate (place + 1 - items.length) .absent, place)
  | .negSucc n =>
    let missing := n + 1 - items.length
    (List.replicate missing .absent ++ items, items.length + missing - (n + 1))

/-- The target with a value at the end of a path. What is no table or list on the way becomes
    one. -/
def withSetting (target value : Setting) : List KeyStep → Setting
  | [] => value
  | [.key name] => target.withRow name value
  | .key name :: rest =>
    let rows := target.rowsOrNone
    let old := (Table.get? rows (lowerText name)).getD .absent
    .table (Table.put rows (lowerText name) (withSetting old value rest))
  | .item index :: rest =>
    let (items, position) := withRoom target.itemsOrNone index
    .list (items.set position (withSetting (items.getD position .absent) value rest))

/-- The settings with those of a source over them. -/
def withSource (settings : Setting) (source : List (String × Setting)) : Setting :=
  source.foldl (fun target row => withSetting target row.2 (KeyStep.ofText row.1)) settings

end Config

end ResourceModel

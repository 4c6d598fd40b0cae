import ResourceModel.Config.Setting

set_option autoImplicit false

/-! # Tables of a TOML document

The tables of a document while it is read. A table that is only on the way to another one is
implicit: it may still be defined. One that dotted keys made may be extended by dotted keys only. No
table is defined twice and no key is given twice. -/

namespace ResourceModel.Toml

/-- A value or table under a key. -/
inductive Item where
  | value (setting : Setting)
  | table (implicit dotted : Bool) (rows : List (String × Item))
  /-- The tables of a list, the last one last. -/
  | tables (items : List Item)
  deriving Inhabited

namespace Item

/-- A table that is defined and has no rows yet. -/
def empty : Item :=
  .table false false []

/-- Changes the table at the end of a path. What is not there is made; of a list of tables the last
    one counts. Dotted keys do not lead into a table that was defined otherwise. -/
def change (dotted : Bool) (f : Item → Option Item) : List String → Item → Option Item
  | [], item => f item
  | key :: rest, .table implicit isDotted rows =>
    let below (child : Item) := change dotted f rest child
    let withChild (child : Item) := Item.table implicit isDotted (Table.put rows key child)
    match Table.get? rows key with
    | none => (below (.table true dotted [])).map withChild
    | some (.table childImplicit childDotted childRows) =>
      if dotted && !childImplicit then none
      else (below (.table childImplicit childDotted childRows)).map withChild
    | some (.tables items) =>
      match items.getLast? with
      | some last =>
        (below last).map fun changed => withChild (.tables (items.dropLast ++ [changed]))
      | none => none
    | some (.value _) => none
  | _ :: _, _ => none

/-- Gives a key of a table its value. -/
def give (dotted : Bool) (key : String) (setting : Setting) : Item → Option Item
  | .table implicit isDotted rows =>
    -- dotted keys extend the tables that dotted keys made, and other keys all other tables
    if isDotted != dotted || Table.has rows key then none
    else some (.table implicit isDotted (Table.put rows key (.value setting)))
  | _ => none

/-- Gives a value to a path of keys of a table. -/
def assign (keys : List String) (setting : Setting) (item : Item) : Option Item :=
  match keys.getLast? with
  | some key =>
    let path := keys.dropLast
    change true (give (!path.isEmpty) key setting) path item
  | none => none

/-- Defines a table under a key. -/
def define (key : String) : Item → Option Item
  | .table implicit isDotted rows =>
    match Table.get? rows key with
    | none => some (.table implicit isDotted (Table.put rows key empty))
    | some (.table true false childRows) =>
      some (.table implicit isDotted (Table.put rows key (.table false false childRows)))
    | some _ => none
  | _ => none

/-- Adds a table to the list of tables under a key. -/
def append (key : String) : Item → Option Item
  | .table implicit isDotted rows =>
    match Table.get? rows key with
    | none => some (.table implicit isDotted (Table.put rows key (.tables [empty])))
    | some (.tables items) =>
      some (.table implicit isDotted (Table.put rows key (.tables (items ++ [empty]))))
    | some _ => none
  | _ => none

/-- Does at the end of a path of keys what is done under its last key. -/
def atPath (f : String → Item → Option Item) (keys : List String) (item : Item) : Option Item :=
  match keys.getLast? with
  | some key => change false (f key) keys.dropLast item
  | none => none

mutual

/-- The setting that an item is. -/
def setting : Item → Setting
  | .value found => found
  | .table _ _ rows => .table (settingRows rows)
  | .tables items => .list (settings items)

/-- The settings that items are. -/
def settings : List Item → List Setting
  | [] => []
  | item :: rest => setting item :: settings rest

/-- The rows of settings that rows of items are. -/
def settingRows : List (String × Item) → List (String × Setting)
  | [] => []
  | (key, item) :: rest => (key, setting item) :: settingRows rest

end

end Item

end ResourceModel.Toml

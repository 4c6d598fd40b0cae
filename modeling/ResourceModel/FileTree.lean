import ResourceModel.Path

set_option autoImplicit false

/-! # File trees

The directories and files that a run sees. A place is the list of names from the root; a path is
followed component by component from the working directory, through directories only. -/

namespace ResourceModel

/-- The names from the root to a directory or file. -/
abbrev Place := List String

/-- What stands at a place. -/
inductive FileEntry where
  | directory
  | file (content : ByteArray)

/-- The directories and files below the root, and the working directory. -/
structure FileTree where
  entries : List (Place × FileEntry)
  work : Place

namespace FileTree

/-- What stands at a place. The root is a directory. -/
def entryAt? (tree : FileTree) (place : Place) : Option FileEntry :=
  if place = [] then some .directory
  else (tree.entries.find? fun entry => entry.1 = place).map (·.2)

/-- Whether a directory stands at a place. -/
def isDirectoryAt (tree : FileTree) (place : Place) : Bool :=
  match tree.entryAt? place with
  | some .directory => true
  | _ => false

/-- The tree with `entry` at a place, in the stead of what stood there. -/
def putAt : List (Place × FileEntry) → Place → FileEntry → List (Place × FileEntry)
  | [], place, entry => [(place, entry)]
  | old :: rest, place, entry =>
    if old.1 = place then (place, entry) :: rest else old :: putAt rest place entry

/-- The tree with `entry` at a place. -/
def put (tree : FileTree) (place : Place) (entry : FileEntry) : FileTree :=
  { tree with entries := putAt tree.entries place entry }

/-- Whether a name can be given to a directory or file. -/
def isName (name : String) : Bool :=
  name.utf8ByteSize ≤ 255

/-- Whether a path can be followed at all: it is not too long and holds no zero character. -/
def isUsable (path : Path) : Bool :=
  path.text.utf8ByteSize < 4096 && !path.text.toList.contains (Char.ofNat 0)

/-! ## Following paths -/

/-- The place one component further; none where the component cannot be followed. -/
def follow? (tree : FileTree) (place : Place) : Component → Option Place
  | .root => some []
  | .here => if tree.isDirectoryAt place then some place else none
  | .up => if tree.isDirectoryAt place then some place.dropLast else none
  | .name text =>
    if tree.isDirectoryAt place && isName text then some (place ++ [text]) else none

/-- The place that components lead to. What stands there need not exist. -/
def followAll? (tree : FileTree) (place : Place) : List Component → Option Place
  | [] => some place
  | component :: rest =>
    match tree.follow? place component with
    | some next => followAll? tree next rest
    | none => none

/-- The place that a path names. -/
def locate? (tree : FileTree) (path : Path) : Option Place :=
  if path.text = "" || !isUsable path then none else tree.followAll? tree.work path.components

/-- What a path names. -/
def find? (tree : FileTree) (path : Path) : Option FileEntry :=
  match (tree.locate? path).bind tree.entryAt? with
  -- what can only name a directory does not name a file
  | some (.file content) => if path.namesDirectory then none else some (.file content)
  | found => found

/-- Whether a path names a file. -/
def isFile (tree : FileTree) (path : Path) : Bool :=
  match tree.find? path with
  | some (.file _) => true
  | _ => false

/-- Whether a path names a directory. -/
def isDirectory (tree : FileTree) (path : Path) : Bool :=
  match tree.find? path with
  | some .directory => true
  | _ => false

/-- The bytes of the file that a path names. -/
def bytes? (tree : FileTree) (path : Path) : Option ByteArray :=
  match tree.find? path with
  | some (.file content) => some content
  | _ => none

/-- The text of the file that a path names, if it is well-formed. -/
def text? (tree : FileTree) (path : Path) : Option String :=
  (tree.bytes? path).bind String.fromUTF8?

/-! ## Listings -/

/-- The last name of a place directly below another one. -/
def nameBelow? (place below : Place) : Option String :=
  if below.dropLast = place then below.getLast? else none

/-- Whether one of two names comes before or at the other. -/
def nameLe (a b : String) : Bool :=
  !(b < a)

/-- The names of what stands directly below a place, with what stands there, in ascending order. -/
def listAt (tree : FileTree) (place : Place) : List (String × FileEntry) :=
  let found := tree.entries.filterMap fun entry =>
    (nameBelow? place entry.1).map fun name => (name, entry.2)
  found.mergeSort fun a b => nameLe a.1 b.1

/-- The names in the directory that a path names, in ascending order. -/
def list (tree : FileTree) (path : Path) : List (String × FileEntry) :=
  match tree.locate? path with
  | some place => if tree.isDirectoryAt place then tree.listAt place else []
  | none => []

/-- The files anywhere below a place: their names from there and their bytes. -/
def filesBelow (tree : FileTree) (place : Place) : List (Place × ByteArray) :=
  tree.entries.filterMap fun entry =>
    match entry.2 with
    | .file content =>
      if place.isPrefixOf entry.1 then some (entry.1.drop place.length, content) else none
    | .directory => none

/-! ## Changes -/

/-- Follows one component, making the directory that it names if nothing stands there. -/
def enter (tree : FileTree) (place : Place) (component : Component) : Option Place × FileTree :=
  match tree.follow? place component with
  | none => (none, tree)
  | some next =>
    match tree.entryAt? next with
    | some .directory => (some next, tree)
    | some (.file _) => (none, tree)
    | none => (some next, tree.put next .directory)

/-- Makes every directory on the way along components; none if a file is in the way. The
    directories made before it stay. -/
def makeAll (tree : FileTree) (place : Place) : List Component → Option Place × FileTree
  | [] => (some place, tree)
  | component :: rest =>
    match tree.enter place component with
    | (some next, tree) => makeAll tree next rest
    | (none, tree) => (none, tree)

/-- Makes the directory that a path names and those above it. The empty path needs none. -/
def makeDirectory (tree : FileTree) (path : Path) : Bool × FileTree :=
  if isUsable path then
    let (place, tree) := tree.makeAll tree.work path.components
    (place.isSome, tree)
  else (false, tree)

/-- Makes the directories above what a path names. -/
def makeParents (tree : FileTree) (path : Path) : Bool × FileTree :=
  match path.parent? with
  | none => (true, tree)
  | some parent => tree.makeDirectory parent

/-- The tree with a file at the place that a path names; none where no file can stand. -/
def writeFile? (tree : FileTree) (path : Path) (content : ByteArray) : Option FileTree :=
  if path.namesDirectory then none
  else match tree.locate? path with
    | none => none
    | some place =>
      if tree.isDirectoryAt place then none else some (tree.put place (.file content))

/-- Whether two entries are the same. -/
def sameEntry : FileEntry → FileEntry → Bool
  | .directory, .directory => true
  | .file a, .file b => a == b
  | _, _ => false

/-- What stands elsewhere or otherwise than in an earlier tree, in the order in which it came. -/
def changesFrom (tree earlier : FileTree) : List (Place × FileEntry) :=
  tree.entries.filter fun row => !(earlier.entryAt? row.1).any (sameEntry row.2)

end FileTree

end ResourceModel

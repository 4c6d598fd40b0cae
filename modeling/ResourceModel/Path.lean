import ResourceModel.Text.Split

set_option autoImplicit false

/-! # File paths

A path is a text; what it names is decided by its components. Two paths with the same components
name the same place: repeated slashes, inner `.` components and a closing slash do not count. -/

namespace ResourceModel

/-- A component of a path. -/
inductive Component where
  | root
  | here
  | up
  | name (text : String)
  deriving DecidableEq, Repr

/-- A file path. -/
structure Path where
  text : String
  deriving DecidableEq, Repr

namespace Path

/-- Whether the path starts at the root. -/
def isAbsolute (p : Path) : Bool :=
  p.text.toList.head? == some '/'

/-- The component that a part between slashes stands for. An empty part and `.` stand for none. -/
def component? (part : String) : Option Component :=
  if part = "" ∨ part = "." then none
  else if part = ".." then some .up
  else some (.name part)

/-- The components of a path. A leading `.` is kept. -/
def components (p : Path) : List Component :=
  let parts := splitParts p.text '/'
  let start := if p.isAbsolute then [.root] else if parts.head? = some "." then [.here] else []
  start ++ parts.filterMap component?

/-- The path of `other` seen from `p`: an absolute path replaces it, any other one follows it
    behind a slash. -/
def join (p other : Path) : Path :=
  if other.isAbsolute then other
  else if p.text = "" ∨ p.text.toList.getLast? = some '/' then ⟨p.text ++ other.text⟩
  else ⟨p.text ++ "/" ++ other.text⟩

/-- The path of a name below `p`. -/
def child (p : Path) (name : String) : Path :=
  p.join ⟨name⟩

/-- The last component, if it is a name. -/
def fileName? (p : Path) : Option String :=
  match p.components.getLast? with
  | some (.name text) => some text
  | _ => none

/-- The texts before and after the last dot of a file name; none if there is no dot or nothing
    before it. -/
def splitExtension? (name : String) : Option (String × String) :=
  match Text.cut? '.' name.toList.reverse with
  | some (after, before) =>
    if before.isEmpty then none
    else some (String.ofList before.reverse, String.ofList after.reverse)
  | none => none

/-- The file name without its extension. -/
def stemOfName (name : String) : String :=
  ((splitExtension? name).map (·.1)).getD name

/-- The extension of a file name. -/
def extensionOfName? (name : String) : Option String :=
  (splitExtension? name).map (·.2)

/-- The parts between slashes up to the last one that stands for a component; a part that comes
    first is kept. The parts come and go with the last one first. -/
def trimParts : List String → List String
  | [] => []
  | [first] => [first]
  | part :: rest => if (component? part).isSome then part :: rest else trimParts rest

/-- The path without its last component; none where it has no component to leave. -/
def parent? (p : Path) : Option Path :=
  match p.components with
  | [] => none
  | [.root] => none
  | _ =>
    let parts := trimParts (trimParts (splitParts p.text '/').reverse).tail
    some ⟨if parts = [""] then "/" else String.intercalate "/" parts.reverse⟩

/-- Whether the text of the path can only name a directory. -/
def namesDirectory (p : Path) : Bool :=
  p.text.toList.getLast? == some '/' ||
    match (splitParts p.text '/').getLast? with
    | some part => part == "." || part == ".."
    | none => false

end Path

end ResourceModel

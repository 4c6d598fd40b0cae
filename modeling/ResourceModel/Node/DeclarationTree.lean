import ResourceModel.FileTree
import ResourceModel.Node.Declaration
import ResourceModel.Yaml.Value

set_option autoImplicit false

/-! # Trees of declarations

A directory of declarations: its declaration files in the order of their names, and its
subdirectories in that order. A subdirectory holds the children of a node that is declared next to
it. -/

namespace ResourceModel

/-- A declaration file. -/
structure DeclarationFile where
  path : Path
  content : ByteArray

namespace DeclarationFile

/-- Reads the declaration in a file. -/
def declaration (file : DeclarationFile) : Except Error NodeDeclaration :=
  match String.fromUTF8? file.content with
  | none => .error .notText
  | some text =>
    match Yaml.parse text with
    | none => .error .yaml
    | some document => NodeDeclaration.parse document file.path.text

/-- The declaration file that an entry of a directory is: a file whose extension is `yaml`. -/
def ofEntry? (dir : Path) : String × FileEntry → Option DeclarationFile
  | (name, .file content) =>
    if Path.extensionOfName? name = some "yaml" then some ⟨dir.child name, content⟩ else none
  | (_, .directory) => none

end DeclarationFile

/-- A directory of declarations. -/
inductive DeclarationTree where
  | directory (name : String) (path : Path) (files : List DeclarationFile)
      (subtrees : List DeclarationTree)

namespace DeclarationTree

/-- The name of a directory. -/
def name : DeclarationTree → String
  | directory name _ _ _ => name

/-- The path of a directory. -/
def path : DeclarationTree → Path
  | directory _ path _ _ => path

/-- Whether an entry of a directory is a directory. -/
def isDirectory (entry : String × FileEntry) : Bool :=
  match entry.2 with
  | .directory => true
  | .file _ => false

/-- The tree below a place, down to the given depth. -/
def under (files : FileTree) : Nat → String → Path → Place → DeclarationTree
  | 0, name, path, _ => .directory name path [] []
  | depth + 1, name, path, place =>
    let entries := files.listAt place
    .directory name path (entries.filterMap (DeclarationFile.ofEntry? path))
      ((entries.filter isDirectory).map fun entry =>
        under files depth entry.1 (path.child entry.1) (place ++ [entry.1]))

/-- The greatest length of a place in a file tree. -/
def longestPlace (files : FileTree) : Nat :=
  (files.entries.map fun entry => entry.1.length).foldl max 0

/-- The tree in the directory that a path names. A path that names a file has an empty tree; one
    that names nothing cannot be walked. -/
def ofPath (files : FileTree) (path : Path) : Except Error DeclarationTree :=
  match files.locate? path with
  | some place =>
    if files.isDirectory path then
      .ok (under files (longestPlace files + 1) "" path place)
    else if files.isFile path then .ok (.directory "" path [] [])
    else .error .walk
  | none => .error .walk

end DeclarationTree

end ResourceModel

import ResourceModel.Error
import ResourceModel.FileTree
import ResourceModel.Sha256

set_option autoImplicit false

/-! # Artifacts

Files that a run writes below one root, each recorded with its checksum. A path that is written
again keeps its first spelling and gets the new checksum. -/

namespace ResourceModel

/-- A written file: its path below the root and the checksum of its bytes. -/
structure Artifact where
  path : Path
  checksum : String
  deriving DecidableEq, Repr

/-- The files written below a root, in the order of their first writing. -/
structure Artifacts where
  root : Path
  written : List Artifact
  deriving Repr

namespace Artifacts

/-- No files yet. -/
def empty (root : Path) : Artifacts :=
  ⟨root, []⟩

/-- The record with a checksum for a path. -/
def recordIn : List Artifact → Path → String → List Artifact
  | [], path, checksum => [⟨path, checksum⟩]
  | old :: rest, path, checksum =>
    if old.path.components = path.components then ⟨old.path, checksum⟩ :: rest
    else old :: recordIn rest path checksum

/-- The artifacts with a record of the bytes written at a path. -/
def record (artifacts : Artifacts) (path : Path) (content : ByteArray) : Artifacts :=
  { artifacts with written := recordIn artifacts.written path (Sha256.hex content) }

/-- What writing answers: the path that was written or an error, and the artifacts and files
    afterwards. -/
structure Written where
  outcome : Except Error Path
  artifacts : Artifacts
  files : FileTree

/-- Writes bytes at a path below the root, making the directories above it. Only a file that was
    written is recorded. -/
def write (artifacts : Artifacts) (files : FileTree) (path : Path) (content : ByteArray) :
    Written :=
  let target := artifacts.root.join path
  match files.makeParents target with
  | (false, files) => ⟨.error .file, artifacts, files⟩
  | (true, files) =>
    match files.writeFile? target content with
    | some files => ⟨.ok target, artifacts.record path content, files⟩
    | none => ⟨.error .file, artifacts, files⟩

/-- Writes the bytes of another file at a path below the root. -/
def copy (artifacts : Artifacts) (files : FileTree) (source path : Path) : Written :=
  match files.bytes? source with
  | some content => artifacts.write files path content
  | none => ⟨.error .file, artifacts, files⟩

/-- Whether one path comes before or at another in the listing. -/
def pathLe (a b : Artifact) : Bool :=
  FileTree.nameLe a.path.text b.path.text

/-- The line of an artifact in the listing. -/
def Artifact.line (artifact : Artifact) : String :=
  artifact.checksum ++ "  " ++ artifact.path.text

/-- The checksums and paths of the written files, a line for each, in the order of the paths. -/
def listing (artifacts : Artifacts) : String :=
  String.intercalate "\n" ((artifacts.written.mergeSort pathLe).map Artifact.line)

/-- The name of the file that holds the listing. -/
def listingName : String := "checksums.sha256"

/-- Writes the listing at the root. -/
def finish (artifacts : Artifacts) (files : FileTree) : Except Error Path × FileTree :=
  let target := artifacts.root.child listingName
  match files.makeDirectory artifacts.root with
  | (false, files) => (.error .file, files)
  | (true, files) =>
    match files.writeFile? target artifacts.listing.toUTF8 with
    | some files => (.ok target, files)
    | none => (.error .file, files)

end Artifacts

end ResourceModel

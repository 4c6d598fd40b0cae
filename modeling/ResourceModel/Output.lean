import ResourceModel.Artifacts
import ResourceModel.Step

set_option autoImplicit false

/-! # Writing as a step

The artifacts below one root and the files they are written to. A write that fails records nothing,
but the directories made for it stay. -/

namespace ResourceModel

/-- The artifacts below a root, and the files. -/
structure Output where
  artifacts : Artifacts
  files : FileTree

namespace Output

/-- No artifacts below a root yet. -/
def start (root : Path) (files : FileTree) : Output :=
  ⟨.empty root, files⟩

/-- The step that a writing is. -/
def ofWritten (written : Artifacts.Written) : Step Output Path := fun _ =>
  match written.outcome with
  | .ok path => .ok path ⟨written.artifacts, written.files⟩
  | .error error => .error error ⟨written.artifacts, written.files⟩

/-- Writes a text at a path below the root. -/
def write (path text : String) : Step Output Path := fun output =>
  ofWritten (output.artifacts.write output.files ⟨path⟩ text.toUTF8) output

/-- Writes the bytes of another file at a path below the root. -/
def copy (source : Path) (path : String) : Step Output Path := fun output =>
  ofWritten (output.artifacts.copy output.files source ⟨path⟩) output

/-- Writes the listing of the artifacts. -/
def finish : Step Output Path := fun output =>
  match output.artifacts.finish output.files with
  | (.ok path, files) => .ok path { output with files }
  | (.error error, files) => .error error { output with files }

end Output

end ResourceModel

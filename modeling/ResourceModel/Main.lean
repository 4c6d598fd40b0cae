import ResourceModel.Calendar
import ResourceModel.CommandLine
import ResourceModel.Text.Utf8

set_option autoImplicit false

/-! # The program

The outer layer of the command line: it reads the files that a command looks at into a tree, runs
the command on it, and writes back what has changed. -/

namespace ResourceModel

namespace Disk

/-- How the operating system writes a place. -/
def textOfPlace (place : Place) : String :=
  "/" ++ "/".intercalate place

/-- What stands at a place of the disk, as far as it can be read. -/
def entryAt? (place : Place) : IO (Option FileEntry) := do
  let path := (← IO.currentDir) / textOfPlace place
  if ← path.isDir then return some .directory
  try
    return some (.file (← IO.FS.readBinFile path))
  catch _ => return none

/-- The tree with what stands at a place. -/
def loadPlace (tree : FileTree) (place : Place) : IO FileTree := do
  if place = [] then return tree
  match ← entryAt? place with
  | some entry => return tree.put place entry
  | none => return tree

/-- The tree with what stands at a place and everything below it. -/
partial def loadBelow (tree : FileTree) (place : Place) : IO FileTree := do
  let mut tree ← loadPlace tree place
  if tree.isDirectoryAt place then
    for entry in ← ((← IO.currentDir) / textOfPlace place).readDir do
      tree ← loadBelow tree (place ++ [entry.fileName])
  return tree

/-- The tree with what components lead to, and with the directories on the way. -/
def loadAlong (tree : FileTree) (place : Place) : List Component → IO FileTree
  | [] => loadBelow tree place
  | component :: rest => do
    let tree ← loadPlace tree place
    match tree.follow? place component with
    | some next => loadAlong tree next rest
    | none => return tree

/-- The tree with what paths lead to. The working directory itself is not read whole. -/
def load (tree : FileTree) (paths : List Path) : IO FileTree :=
  paths.foldlM (fun tree path => loadAlong tree tree.work path.components) tree

/-- Writes what stands at places. -/
def write (changes : List (Place × FileEntry)) : IO Unit := do
  for (place, entry) in changes do
    match entry with
    | .directory => IO.FS.createDirAll (textOfPlace place)
    | .file content => IO.FS.writeBinFile (textOfPlace place) content

end Disk

namespace CommandLine

/-- The variables of the environment. -/
def environment : IO (List (String × String)) := do
  let listed ← try IO.FS.readBinFile "/proc/self/environ" catch _ => pure ByteArray.empty
  return (splitParts (Text.decode listed) (Char.ofNat 0)).filterMap fun row => cutAt? row '='

/-- The value of a variable, if it is not empty. -/
def valueIn? (name : String) : IO (Option String) := do
  return (← IO.getEnv name).filter (· ≠ "")

/-- The directory of the user's configuration files. -/
def userDir? : IO (Option Path) := do
  let named := ((← valueIn? "XDG_CONFIG_HOME").map Path.mk).filter Path.isAbsolute
  let home := (← valueIn? "HOME").map fun home => Path.child ⟨home⟩ ".config"
  return named.or home

/-- The current year, by the time at which this process came up. -/
def currentYear : IO Nat := do
  let process ← ((← IO.currentDir) / "/proc/self").metadata
  return Calendar.yearOfSeconds process.modified.sec.toNat

/-- What this process finds around it. -/
def surroundings : IO Surroundings := do
  let passingDir := (← valueIn? "TMPDIR").getD "/tmp"
  return ⟨← userDir?, ← environment, ⟨passingDir⟩, ← currentYear⟩

/-- The files that a command looks at. -/
def filesFor (surroundings : Surroundings) (invocation : Invocation) : IO FileTree := do
  let work := (splitParts (← IO.currentDir).toString '/').filter (· ≠ "")
  let sources := surroundings.sources invocation
  let tree ← Disk.load ⟨[], work⟩ sources.paths
  match Config.load? tree sources with
  | some config => Disk.load tree (invocation.command.places surroundings config)
  | none => return tree

/-- Runs what arguments ask for on the files of the disk. -/
def perform (arguments : List String) : IO UInt32 := do
  match parse arguments with
  | none =>
    IO.eprintln "error: expected one of the commands generate, config and graph with its options"
    return 2
  | some invocation =>
    let surroundings ← surroundings
    let files ← filesFor surroundings invocation
    let outcome := run surroundings arguments files
    Disk.write (outcome.files.changesFrom files)
    IO.print outcome.printed
    if let some failure := outcome.failure then IO.eprintln ("Error: " ++ failure)
    return outcome.code.toUInt32

end CommandLine

end ResourceModel

/-- Runs the program. -/
def main (arguments : List String) : IO UInt32 :=
  ResourceModel.CommandLine.perform arguments

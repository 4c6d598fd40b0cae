import ResourceModel.Config.Layers
import ResourceModel.Config.Printer
import ResourceModel.Generation
import ResourceModel.Registry.Dot

set_option autoImplicit false

/-! # The command line

What the arguments ask for, and what is done about it: a run over the declarations, the effective
configuration, or a drawing of the dependency graph. Reading the arguments and running what they ask
for are functions of the arguments, the files and the environment. -/

namespace ResourceModel

namespace CommandLine

/-! ## Arguments -/

/-- An option that takes a value. -/
structure Flag where
  short : Char
  long : String
  /-- Whether the value is a path, which cannot be empty. -/
  isPath : Bool
  deriving DecidableEq, Repr

/-- The option that names a configuration file. It may stand before and behind the command. -/
def configFlag : Flag := ⟨'c', "config", false⟩

/-- What is asked for. -/
inductive Command where
  | generate (root out : Option Path)
  | config (save : Option Path)
  | graph (output : Option Path)
  deriving DecidableEq, Repr

/-- What is asked for, and the configuration file that is named. -/
structure Invocation where
  configFile : Option Path
  command : Command
  deriving DecidableEq, Repr

/-- Whether an argument is an option and no value. -/
def isOption (argument : String) : Bool :=
  (textAfter? "-" argument).any (· ≠ "")

/-- The option that an argument begins with, and the value in the same argument if there is one. -/
def readFlag? (flags : List Flag) (argument : String) : Option (Flag × Option String) :=
  match textAfter? "--" argument with
  | some body =>
    let (name, value) := match cutAt? body '=' with
      | some (name, value) => (name, some value)
      | none => (body, none)
    (flags.find? fun flag => flag.long = name).map fun flag => (flag, value)
  | none =>
    match argument.toList with
    | '-' :: short :: body =>
      let value := match body with
        | [] => none
        | '=' :: value => some (String.ofList value)
        | value => some (String.ofList value)
      (flags.find? fun flag => flag.short = short).map fun flag => (flag, value)
    | _ => none

/-- The values of options, in their order. -/
abbrev Values := List (Flag × String)

/-- The values with one in front, if its option is not given twice and it is a fitting value. -/
def withValue (flag : Flag) (value : String) (read : Values × List String) :
    Option (Values × List String) :=
  if read.1.any fun other => other.1 = flag then none
  else if flag.isPath && value = "" then none
  else some ((flag, value) :: read.1, read.2)

/-- The argument behind which no option stands. -/
def endOfOptions : String := "--"

/-- Reads options up to the first argument that is none. The end of the options may be marked, but
    nothing stands behind it. -/
def readFlags (flags : List Flag) : List String → Option (Values × List String)
  | [] => some ([], [])
  | [argument] =>
    if argument = endOfOptions then some ([], [])
    else if isOption argument then
      match readFlag? flags argument with
      | some (flag, some value) => withValue flag value ([], [])
      | _ => none
    else some ([], [argument])
  | argument :: next :: rest =>
    if isOption argument then
      match readFlag? flags argument with
      | some (flag, some value) => (readFlags flags (next :: rest)).bind (withValue flag value)
      | some (flag, none) =>
        if isOption next then none else (readFlags flags rest).bind (withValue flag next)
      | none => none
    else some ([], argument :: next :: rest)

/-- The value of an option. -/
def valueOf? (values : Values) (long : String) : Option Path :=
  ((values.find? fun row => row.1.long = long).map (·.2)).map Path.mk

/-- The options of a command. -/
def flagsOf? (command : String) : Option (List Flag) :=
  if command = "generate" then some [⟨'r', "root", true⟩, ⟨'o', "out", true⟩]
  else if command = "config" then some [⟨'s', "save", false⟩]
  else if command = "graph" then some [⟨'o', "output", true⟩]
  else none

/-- The command of a name with the given values. -/
def commandOf (name : String) (values : Values) : Command :=
  if name = "generate" then .generate (valueOf? values "root") (valueOf? values "out")
  else if name = "config" then .config (valueOf? values "save")
  else .graph (valueOf? values "output")

/-- Reads arguments; none if they are not used as they have to be. -/
def parse (arguments : List String) : Option Invocation :=
  match readFlags [configFlag] arguments with
  | some (outer, name :: rest) =>
    match (flagsOf? name).bind fun flags => readFlags (configFlag :: flags) rest with
    | some (inner, []) =>
      some ⟨(valueOf? inner "config").or (valueOf? outer "config"), commandOf name inner⟩
    | _ => none
  | _ => none

/-! ## Outcomes -/

/-- What a command leaves: its exit code, the text it prints, the text of the error it ends with,
    and the files. -/
structure Outcome where
  code : Nat
  printed : String
  failure : Option String
  files : FileTree

/-- The outcome of a command that printed a text. -/
def Outcome.done (printed : String) (files : FileTree) : Outcome :=
  ⟨0, printed, none, files⟩

/-- The outcome of a command that ended with an error. -/
def Outcome.failed (failure : String) (files : FileTree) : Outcome :=
  ⟨1, "", some failure, files⟩

/-- The outcome of arguments that are not used as they have to be. -/
def Outcome.misused (files : FileTree) : Outcome :=
  ⟨2, "", none, files⟩

/-- What is written for an error of the operating system. -/
def systemFailure : String := "<os>"

/-- The text that an error ends a command with. -/
def failureText (error : Error) : String :=
  match error.message? with
  | some message => message
  | none =>
    match error with
    | .notText =>
      "IO error: stream did not contain valid UTF-8: stream did not contain valid UTF-8"
    | .yaml => "YAML error"
    | .xml => "XML error"
    | .configuration => "Configuration error"
    | _ => systemFailure

/-! ## Commands -/

/-- What a command finds around it: the sources of the configuration besides the named file, the
    directory for passing files, and the year. -/
structure Surroundings where
  userDir : Option Path
  environment : List (String × String)
  passingDir : Path
  year : Nat

/-- The line that tells what was generated. -/
def summaryLine (summary : GenerationSummary) : String :=
  "Generated " ++ natText summary.nodes ++ " nodes, " ++ natText summary.schemas ++ " schemas, " ++
    natText summary.files ++ " files\n"

/-- The run that generates everything. -/
def generation (config : Config) (year : Nat) : Step Run GenerationSummary := do
  let _ ← Run.load config
  let summary ← Run.generateAll config year
  if config.output.writeChecksums then
    let _ ← Run.finishModels
    return summary
  else return summary

/-- The configuration with the places that were named. Without an output directory the results go
    below the root. -/
def placed (config : Config) (root out : Option Path) : Config :=
  let config := match root with
    | some root => config.withRoot root
    | none => config
  match out.or root with
  | some out => config.withOutput out
  | none => config

/-- Generates everything. -/
def generate (config : Config) (year : Nat) (root out : Option Path) (files : FileTree) :
    Outcome :=
  let config := placed config root out
  match (generation config year).outcome (Run.start config files) with
  | (.ok summary, run) => .done (summaryLine summary) run.files
  | (.error error, run) => .failed (failureText error) run.files

/-- What is told of a configuration that cannot be written. -/
def unwritable : String := "out-of-range value for u64 type"

/-- Prints the configuration, or writes it to a file. -/
def showConfig (config : Config) (save : Option Path) (files : FileTree) : Outcome :=
  match save, config.text? with
  | none, some text => .done text files
  | none, none => .failed unwritable files
  | some path, none => .failed ("saving configuration to " ++ path.text ++ ": " ++ unwritable) files
  | some path, some text =>
    match files.writeFile? path text.toUTF8 with
    | some files => .done ("Saved configuration to " ++ path.text ++ "\n") files
    | none => .failed systemFailure files

/-- The run that finds the dependency graph; answers its drawing. -/
def drawing (config : Config) (year : Nat) : Step Run String := do
  let _ ← Run.load config
  Run.renderAll config year
  Run.finalize config
  return (← get).session.registry.dot

/-- The file that gets the drawing if none is named. -/
def drawingFile : Path := ⟨"schemas.dot"⟩

/-- The directory for the models of a run that is made for its drawing. -/
def Surroundings.modelsDir (surroundings : Surroundings) : Path :=
  surroundings.passingDir.child "redfish-gen-graph"

/-- Draws the dependency graph. The models that are written on the way go to a directory for passing
    files. -/
def drawGraph (config : Config) (surroundings : Surroundings) (output : Option Path)
    (files : FileTree) : Outcome :=
  let config :=
    { config with output := { config.output with generatedDir := surroundings.modelsDir } }
  match (drawing config surroundings.year).outcome (Run.start config files) with
  | (.error error, run) => .failed (failureText error) run.files
  | (.ok text, run) =>
    let path := output.getD drawingFile
    match run.files.writeFile? path text.toUTF8 with
    | some files => .done ("Exported DOT to: " ++ path.text ++ "\n") files
    | none => .failed systemFailure run.files

/-- Where the configuration of an invocation is read from. -/
def Surroundings.sources (surroundings : Surroundings) (invocation : Invocation) : Config.Sources :=
  ⟨surroundings.userDir, invocation.configFile, surroundings.environment⟩

/-- The directories that a run of a configuration reads and writes. -/
def runPlaces (config : Config) : List Path :=
  [config.assets.bundleDir .redfish, config.assets.bundleDir .swordfish,
    config.assets.extensionJsonDir, config.assets.extensionCsdlDir, config.declarationsDir,
    config.output.wwwDir, config.output.generatedDir]

/-- The files and directories that a command reads and writes. -/
def Command.places (surroundings : Surroundings) (config : Config) : Command → List Path
  | .generate root out => runPlaces (placed config root out)
  | .config save => save.toList
  | .graph output => output.getD drawingFile :: surroundings.modelsDir :: runPlaces config

/-- Runs what arguments ask for. -/
def run (surroundings : Surroundings) (arguments : List String) (files : FileTree) : Outcome :=
  match parse arguments with
  | none => .misused files
  | some invocation =>
    match Config.load? files (surroundings.sources invocation) with
    | none => .failed "loading configuration" files
    | some config =>
      match invocation.command with
      | .generate root out => generate config surroundings.year root out files
      | .config save => showConfig config save files
      | .graph output => drawGraph config surroundings output files

end CommandLine

end ResourceModel

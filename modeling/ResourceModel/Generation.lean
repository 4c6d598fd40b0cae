import ResourceModel.Node.DeclarationTree
import ResourceModel.Node.Model
import ResourceModel.Registry.Closure
import ResourceModel.Registry.Index

set_option autoImplicit false

/-! # Generation

A run builds a node for every declaration of a tree, writes the model of each node, completes the
registry of schemas, and writes the index of schemas. -/

namespace ResourceModel

/-- The state of a run: what was read and registered, the nodes, the files, and the models that were
    written. -/
structure Run where
  session : Session
  graph : Graph
  files : FileTree
  models : Artifacts

/-- What a run produced. -/
structure GenerationSummary where
  nodes : Nat
  schemas : Nat
  files : Nat
  deriving DecidableEq, Repr

namespace Run

/-- The start of a run over files. -/
def start (config : Config) (files : FileTree) : Run :=
  ⟨.start, .empty, files, .empty config.output.generatedDir⟩

/-! ## Parts of the state -/

/-- A step over what was read and registered. It sees the files as they are. -/
def inSession {α : Type} (config : Config) (step : Assets → Step Session α) : Step Run α :=
  fun run =>
    (step ⟨run.files, config⟩).onPart Run.session (fun run session => { run with session }) run

/-- A step that writes models. -/
def writingModels {α : Type} (step : Step Output α) : Step Run α :=
  step.onPart (fun run => ⟨run.models, run.files⟩) fun run output =>
    { run with models := output.artifacts, files := output.files }

/-- A step that writes artifacts of its own below a root. -/
def writingBelow {α : Type} (root : Path) (step : Step Output α) : Step Run α :=
  step.onPart (fun run => Output.start root run.files) fun run output =>
    { run with files := output.files }

/-! ## Building nodes -/

/-- Builds the node of a declaration file below a place of the graph; answers its key. -/
def buildFile (config : Config) (parent : Option Nat) (file : DeclarationFile) :
    Step Run String := do
  let declaration ← Step.ofExcept file.declaration
  let anchor := (← get).graph.anchorBelow parent
  let node ← inSession config fun assets => Session.reading (Node.build assets anchor declaration)
  modify fun run => { run with graph := run.graph.insert node }
  return node.key

/-- Builds the nodes of declaration files, one after the other; answers their keys and places. -/
def buildFiles (config : Config) (parent : Option Nat) :
    List DeclarationFile → Step Run (List (String × Nat))
  | [] => return []
  | file :: rest => do
    let key ← buildFile config parent file
    let place := (← get).graph.size - 1
    return (key, place) :: (← buildFiles config parent rest)

/-- The place of the last node that was built under a key. -/
def placeOf? (built : List (String × Nat)) (key : String) : Option Nat :=
  built.reverse.lookup key

mutual

/-- Builds the nodes of a tree below a place of the graph. -/
def buildTree (config : Config) (parent : Option Nat) : DeclarationTree → Step Run Unit
  | .directory _ _ files subtrees => do
    let built ← buildFiles config parent files
    buildTrees config built subtrees

/-- Builds the nodes of subdirectories, each below the node that it is named for. -/
def buildTrees (config : Config) (built : List (String × Nat)) :
    List DeclarationTree → Step Run Unit
  | [] => return ()
  | tree :: rest =>
    match placeOf? built tree.name with
    | none => throw (.malformed tree.path.text (.undeclaredDirectory tree.name))
    | some place => do
      buildTree config (some place) tree
      buildTrees config built rest

end

/-- Builds a node for every declaration; answers their number. -/
def load (config : Config) : Step Run Nat := do
  let tree ← Step.ofExcept (DeclarationTree.ofPath (← get).files config.declarationsDir)
  buildTree config none tree
  return (← get).graph.size

/-! ## Writing models -/

/-- The name of the file of a model. -/
def modelFile (classname : String) : String :=
  classname ++ ".json"

/-- Checks a node, writes its model, and registers its schema. -/
def generate (config : Config) (year : Nat) (node : Node) : Step Run Unit := do
  Step.ofExcept node.validate
  let graph := (← get).graph
  let model ← inSession config fun assets => NodeModel.build assets graph year node
  let _ ← writingModels (Output.write (modelFile model.classname) model.toJson.pretty)
  inSession config fun _ => Session.registering (modify fun registry =>
    registry.register (.known node.standard node.schema node.version node.schemaDocument))

/-- Checks, writes and registers nodes, one after the other. -/
def generateNodes (config : Config) (year : Nat) : List Node → Step Run Unit :=
  Step.each (generate config year)

/-- Checks, writes and registers every node, in the order in which they were built. -/
def renderAll (config : Config) (year : Nat) : Step Run Unit := do
  generateNodes config year (← get).graph.nodes

/-- Writes the listing of the models. -/
def finishModels : Step Run Path :=
  writingModels Output.finish

/-! ## The whole run -/

/-- Completes the registry. -/
def finalize (config : Config) : Step Run Unit :=
  inSession config Registry.finalize

/-- Writes the index of schemas, with its listing if checksums are wanted. -/
def emit (config : Config) : Step Run Index.Summary := do
  let registry := (← get).session.registry
  writingBelow config.output.wwwDir do
    let summary ← Index.emit config registry
    if config.output.writeChecksums then
      let _ ← Output.finish
      return summary
    else return summary

/-- Writes every model, completes the registry, and writes the index of schemas. -/
def generateAll (config : Config) (year : Nat) : Step Run GenerationSummary := do
  renderAll config year
  -- only the models tell all that is mentioned, so the registry is completed behind them
  finalize config
  let summary ← emit config
  return ⟨(← get).graph.size, summary.schemas, summary.files⟩

end Run

end ResourceModel

import ResourceModel.Generation
import ResourceModel.Proofs.FileTree
import ResourceModel.Proofs.Step

set_option autoImplicit false

/-! # Building the nodes

The nodes are built one after the other, each by reading documents and then joining the graph. So
what building a node keeps and what joining the graph keeps is kept by the whole loading. -/

namespace ResourceModel.Run

open Step

variable {config : Config} {holds : Run → Prop}

/-- A step over what was read and registered keeps a property of the run, if what it keeps there,
    with the files as they are, is enough for the whole. -/
theorem keeps_inSession {α : Type} {ofSession : Assets → Session → Prop}
    {step : Assets → Step Session α} (keeps : ∀ assets, Keeps (ofSession assets) (step assets))
    (enter : ∀ run, holds run → ofSession ⟨run.files, config⟩ run.session)
    (leave : ∀ run session, holds run → ofSession ⟨run.files, config⟩ session →
      holds { run with session }) : Keeps holds (inSession config step) := by
  intro run before
  have hafter : (inSession config step).after run =
      { run with session := (step ⟨run.files, config⟩).after run.session } :=
    after_onPart session (fun (run : Run) session => { run with session }) _ run
  rw [hafter]
  exact leave run _ before (keeps _ _ (enter run before))

/-- Building the node of a declaration. -/
def buildNode (config : Config) (anchor : Anchor) (declaration : NodeDeclaration) :
    Step Run Node :=
  inSession config fun assets => Session.reading (Node.build assets anchor declaration)

/-- Whether a property of a run is kept where a node is built and joins the graph. -/
structure KeptByLoading (config : Config) (holds : Run → Prop) : Prop where
  built : ∀ anchor declaration, Keeps holds (buildNode config anchor declaration)
  inserted : ∀ anchor declaration before node run, holds before →
    buildNode config anchor declaration before = .ok node run → holds run →
    holds { run with graph := run.graph.insert node }

namespace KeptByLoading

theorem keeps_buildFile (kept : KeptByLoading config holds) (parent : Option Nat)
    (file : DeclarationFile) : Keeps holds (buildFile config parent file) := by
  unfold buildFile
  refine .bind (.ofExcept file.declaration) fun declaration => .bind .get fun run => ?_
  intro before hbefore
  refine holds_after_bind (kept.built _ declaration before hbefore)
    fun node built hbuild hbuilt => ?_
  refine holds_after_bind ?_ fun _ _ _ joined => joined
  exact kept.inserted _ declaration before node built hbefore hbuild hbuilt

theorem keeps_buildFiles (kept : KeptByLoading config holds) (parent : Option Nat)
    (files : List DeclarationFile) : Keeps holds (buildFiles config parent files) := by
  induction files with
  | nil => exact .pure []
  | cons file rest ih =>
    unfold buildFiles
    exact .bind (kept.keeps_buildFile parent file) fun key =>
      .bind .get fun _ => .bind ih fun _ => .pure _

mutual

theorem keeps_buildTree (kept : KeptByLoading config holds) (parent : Option Nat) :
    (tree : DeclarationTree) → Keeps holds (buildTree config parent tree)
  | .directory _ _ files subtrees => by
    unfold buildTree
    exact .bind (kept.keeps_buildFiles parent files) fun built =>
      keeps_buildTrees kept built subtrees

theorem keeps_buildTrees (kept : KeptByLoading config holds) (built : List (String × Nat)) :
    (trees : List DeclarationTree) → Keeps holds (buildTrees config built trees)
  | [] => by
    unfold buildTrees
    exact .pure ()
  | tree :: rest => by
    unfold buildTrees
    split
    · exact .throw _
    · exact .bind (keeps_buildTree kept _ tree) fun _ => keeps_buildTrees kept built rest

end

theorem keeps_load (kept : KeptByLoading config holds) : Keeps holds (load config) := by
  unfold load
  exact .bind .get fun _ => .bind (.ofExcept _) fun tree =>
    .bind (kept.keeps_buildTree none tree) fun _ => .bind .get fun _ => .pure _

end KeptByLoading

/-- Loading writes no models and no files. -/
theorem models_of_load {run loaded : Run} {count : Nat} (h : load config run = .ok count loaded) :
    loaded.models = run.models ∧ loaded.files = run.files := by
  let unwritten : Run → Prop := fun later => later.models = run.models ∧ later.files = run.files
  have kept : KeptByLoading config unwritten := by
    refine ⟨fun anchor declaration => ?_, fun _ _ _ _ _ _ _ hlater => hlater⟩
    have anything : ∀ assets, Keeps (fun _ => True)
        (Session.reading (Node.build assets anchor declaration)) := fun _ _ _ => trivial
    exact keeps_inSession anything (fun _ _ => trivial) fun _ _ hlater _ => hlater
  exact kept.keeps_load.of_ok h ⟨rfl, rfl⟩

end ResourceModel.Run

namespace ResourceModel

/-! ## Files that stand in order

The entries of a directory are read in the order of their names. Where the files of a tree stand in
that order already, nothing has to be sorted. -/

namespace DeclarationTree

/-- The tree below a place, with the entries of each directory as they stand. -/
def storedUnder (files : FileTree) : Nat → String → Path → Place → DeclarationTree
  | 0, name, path, _ => .directory name path [] []
  | depth + 1, name, path, place =>
    let entries := files.storedAt place
    .directory name path (entries.filterMap (DeclarationFile.ofEntry? path))
      ((entries.filter isDirectory).map fun entry =>
        storedUnder files depth entry.1 (path.child entry.1) (place ++ [entry.1]))

theorem under_of_inOrder {files : FileTree} (h : files.InOrder) (depth : Nat) (name : String)
    (path : Path) (place : Place) :
    under files depth name path place = storedUnder files depth name path place := by
  induction depth generalizing name path place with
  | zero => rfl
  | succ depth ih =>
    unfold under storedUnder
    simp only [FileTree.listAt_of_inOrder h, ih]

end DeclarationTree

namespace Run

/-- Loading the declarations below a place, with the entries of each directory as they stand. -/
def loadStored (config : Config) (place : Place) : Step Run Nat := do
  let files := (← get).files
  buildTree config none (DeclarationTree.storedUnder files
    (DeclarationTree.longestPlace files + 1) "" config.declarationsDir place)
  return (← get).graph.size

theorem load_of_inOrder {config : Config} {run : Run} {place : Place} (h : run.files.InOrder)
    (hlocate : run.files.locate? config.declarationsDir = some place)
    (hdirectory : run.files.isDirectory config.declarationsDir = true) :
    load config run = loadStored config place run := by
  have htree : DeclarationTree.ofPath run.files config.declarationsDir =
      .ok (DeclarationTree.storedUnder run.files
        (DeclarationTree.longestPlace run.files + 1) "" config.declarationsDir place) := by
    unfold DeclarationTree.ofPath
    simp only [hlocate, hdirectory, if_true, DeclarationTree.under_of_inOrder h]
  unfold load
  rw [Step.bind_apply, Step.get_apply]
  dsimp only
  rw [Step.bind_apply, htree]
  rfl

end Run

end ResourceModel

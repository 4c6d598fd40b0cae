import ResourceModel.Proofs.Declaration
import ResourceModel.Proofs.Generation.Documents
import ResourceModel.Proofs.Generation.Sources

set_option autoImplicit false

/-! # The shape of the graph

Loading walks the declaration files of a tree in their order and gives each of them one node. The
nodes of a subdirectory hang below the last node that a file next to it declares under the
subdirectory's name. The walk is followed directory by directory: what is added below a directory
refers to the nodes that were added before it, and nothing that is added later declares a key in a
directory that the walk has left. -/

namespace ResourceModel

open DeclarationTree

/-! ## One node -/

/-- What a node of a graph takes from its declaration, and its id below that of its parent. -/
structure Node.FitsIn (graph : Graph) (node : Node) : Prop where
  key : node.key = node.declaration.key
  leading : node.leading =
    ((node.declaration.body.text? "Prefix").map fun text => nonEmptyParts text '/').getD []
  fixed : node.declaration.dynamic = false →
    node.segment = (node.declaration.body.text? "Segment").getD node.declaration.key
  dynamic : node.declaration.dynamic = true → ∃ parameter name,
    node.declaration.body.get? "Parameter" = some parameter ∧
      parameter.text? "Parameter" = some name ∧ node.segment = "\x7b" ++ name ++ "\x7d"
  inside : ∀ place, node.parent = some place → place < graph.size
  id : node.id = ((graph.parentOf? node).map Node.id).getD "/redfish" ++ "/" ++
    String.join (node.leading.map (· ++ "/")) ++ node.segment

theorem Graph.get?_of_prefix {graph later : Graph} (h : graph.nodes <+: later.nodes) {place : Nat}
    (inside : place < graph.size) : later.get? place = graph.get? place := by
  obtain ⟨more, hmore⟩ := h
  rw [get?, get?, ← hmore, List.getElem?_append_left inside]

/-- Nodes that come later change nothing. -/
theorem Node.FitsIn.of_prefix {graph later : Graph} {node : Node} (h : node.FitsIn graph)
    (hstart : graph.nodes <+: later.nodes) : node.FitsIn later := by
  have hparent : later.parentOf? node = graph.parentOf? node := by
    unfold Graph.parentOf?
    cases hplace : node.parent with
    | none => rfl
    | some place => exact Graph.get?_of_prefix hstart (h.inside place hplace)
  refine ⟨h.key, h.leading, h.fixed, h.dynamic, fun place hplace => ?_, ?_⟩
  · exact Nat.lt_of_lt_of_le (h.inside place hplace) hstart.length_le
  · rw [hparent]
    exact h.id

/-- The name of a parameter is the text that its definition has for it. -/
theorem NodeParameter.text?_of_parse {definition : Json} {node : String}
    {parameter : NodeParameter} (h : NodeParameter.parse definition node = .ok parameter) :
    definition.text? "Parameter" = some parameter.name := by
  obtain ⟨name, hname, hrest⟩ := Step.except_bind_eq_ok.1 h
  rw [Declaration.requiredText_eq_ok.1 hname]
  obtain ⟨type, -, hparameter⟩ := Step.except_bind_eq_ok.1 hrest
  split at hparameter
  · cases hparameter
    rfl
  · split at hparameter
    · obtain ⟨source, -, hentity⟩ := Step.except_bind_eq_ok.1 hparameter
      obtain ⟨conditions, -, hanswer⟩ := Step.except_bind_eq_ok.1 hentity
      cases hanswer
      rfl
    · cases hparameter

/-- The last segment of an id: the parameter's placeholder for a dynamic node, the declared segment
    or else the key for any other one. -/
theorem Node.segmentOf_of_parameterOf {declaration : NodeDeclaration}
    {parameter : Option NodeParameter} (h : parameterOf declaration = .ok parameter) :
    (declaration.dynamic = false →
      segmentOf declaration parameter = (declaration.body.text? "Segment").getD declaration.key) ∧
    (declaration.dynamic = true → ∃ definition name,
      declaration.body.get? "Parameter" = some definition ∧
        definition.text? "Parameter" = some name ∧
        segmentOf declaration parameter = "\x7b" ++ name ++ "\x7d") := by
  unfold parameterOf at h
  cases hdynamic : declaration.dynamic with
  | false =>
    rw [hdynamic] at h
    cases h
    exact ⟨fun _ => rfl, nofun⟩
  | true =>
    rw [hdynamic, if_pos rfl] at h
    refine ⟨nofun, fun _ => ?_⟩
    split at h
    · next definition hdefinition =>
      obtain ⟨found, hfound, rfl⟩ := Step.except_map_eq_ok.1 h
      exact ⟨definition, found.name, hdefinition, NodeParameter.text?_of_parse hfound, rfl⟩
    · cases h

/-- A node that is built below a node of a graph fits in there. -/
theorem Node.fitsIn_of_build {assets : Assets} {graph : Graph} {parent : Option Nat}
    {declaration : NodeDeclaration} {store final : Store} {node : Node}
    (inside : ∀ place, parent = some place → place < graph.size)
    (h : Node.build assets (graph.anchorBelow parent) declaration store = .ok node final) :
    node.declaration = declaration ∧ node.parent = parent ∧ node.FitsIn graph := by
  obtain ⟨outline, openapi, spec, versioned, namespaces, first, second, houtline, -, -, -, rfl⟩ :=
    build_eq_ok h
  obtain ⟨-, -, -, hparameter, -⟩ := outline_eq_ok houtline
  obtain ⟨hfixed, hdynamic⟩ := segmentOf_of_parameterOf hparameter
  exact ⟨rfl, rfl, rfl, rfl, hfixed, hdynamic, inside, rfl⟩

/-! ## The nodes of a directory -/

/-- What is known of a source and the node that is built of it. -/
structure BuiltFrom (path : Path) (graph : Graph) (row : Source × Node) : Prop where
  declared : (row.1.file path).declaration = .ok row.2.declaration
  fits : row.2.FitsIn graph

/-- Whether a graph comes from an earlier one by adding the nodes of sources at its end. -/
structure Adds (path : Path) (old new : Graph) (rows : List (Source × Node)) : Prop where
  nodes : new.nodes = old.nodes ++ rows.map Prod.snd
  built : ∀ row ∈ rows, BuiltFrom path new row

namespace Adds

variable {path : Path} {old middle new : Graph} {rows more : List (Source × Node)}

theorem refl (path : Path) (graph : Graph) : Adds path graph graph [] :=
  ⟨by simp, by simp⟩

theorem size (h : Adds path old new rows) : new.size = old.size + rows.length := by
  rw [Graph.size, h.nodes, List.length_append, List.length_map]
  rfl

theorem trans (first : Adds path old middle rows) (second : Adds path middle new more) :
    Adds path old new (rows ++ more) := by
  refine ⟨?_, fun row hrow => ?_⟩
  · rw [second.nodes, first.nodes, List.map_append, List.append_assoc]
  · rcases List.mem_append.1 hrow with hrow | hrow
    · obtain ⟨declared, fits⟩ := first.built row hrow
      exact ⟨declared, fits.of_prefix (second.nodes ▸ List.prefix_append _ _)⟩
    · exact second.built row hrow

end Adds

namespace Run

variable {config : Config}

theorem adds_of_buildFile {parent : Option Nat} {path : Path} {source : Source} {run final : Run}
    {key : String} (inside : ∀ place, parent = some place → place < run.graph.size)
    (h : buildFile config parent (source.file path) run = .ok key final) :
    ∃ node, Adds path run.graph final.graph [(source, node)] ∧ key = node.key ∧
      node.parent = parent := by
  obtain ⟨declaration, _, hdeclaration, hrest⟩ := Step.bind_eq_ok.1 h
  obtain ⟨hread, rfl⟩ := Step.ofExcept_eq_ok.1 hdeclaration
  obtain ⟨_, _, hget, hrest⟩ := Step.bind_eq_ok.1 hrest
  cases hget
  obtain ⟨node, _, hbuild, hrest⟩ := Step.bind_eq_ok.1 hrest
  obtain ⟨session, hsession, rfl⟩ := inSession_eq_ok.1 hbuild
  obtain ⟨store, hnode, rfl⟩ := Session.reading_eq_ok.1 hsession
  obtain ⟨_, _, hmodify, hanswer⟩ := Step.bind_eq_ok.1 hrest
  cases hmodify
  cases hanswer
  obtain ⟨hdeclared, hparent, hfits⟩ := Node.fitsIn_of_build inside hnode
  refine ⟨node, ⟨rfl, fun row hrow => ?_⟩, rfl, hparent⟩
  obtain rfl := List.mem_singleton.1 hrow
  exact ⟨by rw [hdeclared]; exact hread, hfits.of_prefix (List.prefix_append _ _)⟩

theorem adds_of_buildFiles {parent : Option Nat} {path : Path} {sources : List Source}
    {run final : Run} {built : List (String × Nat)}
    (inside : ∀ place, parent = some place → place < run.graph.size)
    (h : buildFiles config parent (sources.map (Source.file path)) run = .ok built final) :
    ∃ rows, Adds path run.graph final.graph rows ∧ rows.map Prod.fst = sources ∧
      built = (rows.map fun row => row.2.key).zipIdx run.graph.size ∧
      ∀ row ∈ rows, row.2.parent = parent := by
  induction sources generalizing run built with
  | nil =>
    cases h
    exact ⟨[], .refl path _, rfl, rfl, by simp⟩
  | cons source rest ih =>
    obtain ⟨key, middle, hfile, hrest⟩ := Step.bind_eq_ok.1 h
    obtain ⟨_, _, hget, hrest⟩ := Step.bind_eq_ok.1 hrest
    cases hget
    obtain ⟨others, _, hothers, hanswer⟩ := Step.bind_eq_ok.1 hrest
    cases hanswer
    obtain ⟨node, hadds, rfl, hparent⟩ := adds_of_buildFile inside hfile
    have hsize : middle.graph.size = run.graph.size + 1 := hadds.size
    obtain ⟨rows, hmore, rfl, rfl, hparents⟩ :=
      ih (fun place hplace => by have := inside place hplace; omega) hothers
    refine ⟨(source, node) :: rows, hadds.trans hmore, rfl, ?_, ?_⟩
    · simp only [List.map_cons, List.zipIdx_cons, hsize, Nat.add_sub_cancel]
    · exact List.forall_mem_cons.2 ⟨hparent, hparents⟩

/-! ## Owners -/

/-- The place that is found for a key is that of the last node that was built under it. -/
theorem last_of_placeOf? {keys : List String} {offset place : Nat} {key : String}
    (h : placeOf? (keys.zipIdx offset) key = some place) :
    ∃ owner, place = offset + owner ∧ keys[owner]? = some key ∧
      ∀ later, owner < later → keys[later]? ≠ some key := by
  unfold placeOf? at h
  induction keys generalizing offset with
  | nil => simp at h
  | cons first rest ih =>
    rw [List.zipIdx_cons, List.reverse_cons, List.lookup_append] at h
    cases hrest : (rest.zipIdx (offset + 1)).reverse.lookup key with
    | some found =>
      rw [hrest] at h
      cases h
      obtain ⟨owner, rfl, hkey, hlast⟩ := ih hrest
      refine ⟨owner + 1, by omega, hkey, fun later hlater => ?_⟩
      obtain ⟨before, rfl⟩ : ∃ before, later = before + 1 := ⟨later - 1, by omega⟩
      exact hlast before (by omega)
    | none =>
      rw [hrest, Option.none_or] at h
      have hne := List.lookup_eq_none_iff.1 hrest
      by_cases hfirst : key = first
      · obtain rfl : offset = place := by simpa [hfirst] using h
        refine ⟨0, rfl, by rw [hfirst]; rfl, fun later hlater hkey => ?_⟩
        obtain ⟨before, rfl⟩ : ∃ before, later = before + 1 := ⟨later - 1, by omega⟩
        -- a later node under the key would have been found
        have hmem : (key, offset + 1 + before) ∈ (rest.zipIdx (offset + 1)).reverse :=
          List.mem_reverse.2 (List.mk_mem_zipIdx_iff_le_and_getElem?_sub.2
            ⟨by omega, by simpa using hkey⟩)
        simpa using hne _ hmem
      · rw [List.lookup_cons, beq_false_of_ne hfirst] at h
        cases h

end Run

/-- Whether the row at a place is the last one of a directory with a key. -/
structure Owns (rows : List (Source × Node)) (dir : Place) (key : String) (owner : Nat) :
    Prop where
  declares : ∃ row, rows[owner]? = some row ∧ row.1.dir = dir ∧ row.2.key = key
  last : ∀ later row, owner < later → rows[later]? = some row → row.1.dir = dir → row.2.key ≠ key

namespace Owns

variable {rows more : List (Source × Node)} {dir : Place} {key : String} {owner : Nat}

theorem lt_length (h : Owns rows dir key owner) : owner < rows.length := by
  obtain ⟨row, hrow, -⟩ := h.declares
  exact (List.getElem?_eq_some_iff.1 hrow).1

/-- Rows of other directories change nothing. -/
theorem append (h : Owns rows dir key owner) (others : ∀ row ∈ more, row.1.dir ≠ dir) :
    Owns (rows ++ more) dir key owner := by
  refine ⟨?_, fun later row hlater hrow hdir => ?_⟩
  · rw [List.getElem?_append_left h.lt_length]
    exact h.declares
  · by_cases hplace : later < rows.length
    · rw [List.getElem?_append_left hplace] at hrow
      exact h.last later row hlater hrow hdir
    · rw [List.getElem?_append_right (Nat.le_of_not_lt hplace)] at hrow
      exact absurd hdir (others row (List.mem_of_getElem? hrow))

theorem prepend (h : Owns rows dir key owner) (before : List (Source × Node)) :
    Owns (before ++ rows) dir key (before.length + owner) := by
  refine ⟨?_, fun later row hlater hrow hdir => ?_⟩
  · rw [List.getElem?_append_right (by omega), Nat.add_sub_cancel_left]
    exact h.declares
  · rw [List.getElem?_append_right (by omega)] at hrow
    exact h.last (later - before.length) row (by omega) hrow hdir

end Owns

/-- Whether the node of a row hangs below the node that owns its directory: the last one that was
    built, before it, in the directory above under the name of its own. The rows begin at an offset
    in the graph. -/
def Hangs (offset : Nat) (rows : List (Source × Node)) (place : Nat) (node : Node) (above : Place)
    (name : String) : Prop :=
  ∃ owner, owner < place ∧ Owns rows above name owner ∧ node.parent = some (offset + owner)

theorem Hangs.append {offset place : Nat} {rows more : List (Source × Node)} {node : Node}
    {above : Place} {name : String} (h : Hangs offset rows place node above name)
    (others : ∀ row ∈ more, row.1.dir ≠ above) :
    Hangs offset (rows ++ more) place node above name := by
  obtain ⟨owner, hlt, howns, hparent⟩ := h
  exact ⟨owner, hlt, howns.append others, hparent⟩

theorem Hangs.prepend {offset place : Nat} {rows : List (Source × Node)} {node : Node}
    {above : Place} {name : String} (before : List (Source × Node))
    (h : Hangs (offset + before.length) rows place node above name) :
    Hangs offset (before ++ rows) (before.length + place) node above name := by
  obtain ⟨owner, hlt, howns, hparent⟩ := h
  exact ⟨before.length + owner, by omega, howns.prepend before, by rw [hparent, Nat.add_assoc]⟩

/-! ## The walk -/

/-- What the walk of a directory adds: rows for its sources, the first ones below the given parent
    and the others below their owners; and there is an owner for every directory that is met. -/
structure Grown (files : FileTree) (root : Place) (depth offset : Nat) (dir : Place)
    (parent : Option Nat) (rows : List (Source × Node)) : Prop where
  sources : rows.map Prod.fst = sourcesUnder files root depth dir
  top : ∀ row ∈ rows, row.1.dir = dir → row.2.parent = parent
  owned : ∀ place row above name, rows[place]? = some row → row.1.dir = above ++ [name] →
    dir <+: above → Hangs offset rows place row.2 above name
  met : ∀ rest name, rest.length < depth → files.Leads (root ++ dir) (rest ++ [name]) →
    ∃ row ∈ rows, row.1.dir = dir ++ rest ∧ row.2.key = name

/-- What the walks of subdirectories add. The nodes of each one's own files hang below the last node
    that was built under its name. -/
structure GrownBelow (files : FileTree) (root : Place) (depth offset : Nat) (dir : Place)
    (built : List (String × Nat)) (names : List String) (rows : List (Source × Node)) : Prop where
  sources : rows.map Prod.fst =
    names.flatMap fun name => sourcesUnder files root depth (dir ++ [name])
  named : ∀ name ∈ names, (Run.placeOf? built name).isSome
  top : ∀ row ∈ rows, ∀ name, row.1.dir = dir ++ [name] →
    row.2.parent = Run.placeOf? built name
  owned : ∀ place row above name sub, rows[place]? = some row → row.1.dir = above ++ [name] →
    dir ++ [sub] <+: above → Hangs offset rows place row.2 above name
  met : ∀ sub ∈ names, ∀ rest name, rest.length < depth →
    files.Leads (root ++ dir ++ [sub]) (rest ++ [name]) →
    ∃ row ∈ rows, row.1.dir = dir ++ [sub] ++ rest ∧ row.2.key = name

section Walk

variable {config : Config} {files : FileTree} {root : Place} {depth offset : Nat} {dir : Place}
  {path : Path}

theorem Grown.prefix_dir {parent : Option Nat} {rows : List (Source × Node)}
    (h : Grown files root depth offset dir parent rows) {row : Source × Node} (hrow : row ∈ rows) :
    dir <+: row.1.dir := by
  have hsource := List.mem_map_of_mem (f := Prod.fst) hrow
  rw [h.sources] at hsource
  exact prefix_of_mem_sourcesUnder hsource

theorem GrownBelow.prefix_dir {built : List (String × Nat)} {names : List String}
    {rows : List (Source × Node)} (h : GrownBelow files root depth offset dir built names rows)
    {row : Source × Node} (hrow : row ∈ rows) : ∃ name ∈ names, dir ++ [name] <+: row.1.dir := by
  have hsource := List.mem_map_of_mem (f := Prod.fst) hrow
  rw [h.sources] at hsource
  obtain ⟨name, hname, hsource⟩ := List.mem_flatMap.1 hsource
  exact ⟨name, hname, prefix_of_mem_sourcesUnder hsource⟩

/-- The name behind a directory is determined by what lies below it. -/
theorem name_unique {first second : String} {below : Place} (h : dir ++ [first] <+: below)
    (h' : dir ++ [second] <+: below) : first = second := by
  obtain ⟨rest, rfl⟩ := h
  obtain ⟨more, hmore⟩ := h'
  simp only [List.append_assoc, List.singleton_append] at hmore
  exact (List.cons.inj (List.append_cancel_left hmore)).1.symm

/-- A place that lies below a directory but not in it lies below one of its subdirectories. -/
theorem prefix_above {above : Place} {name sub : String} (h : dir ++ [sub] <+: above ++ [name])
    (hbelow : dir <+: above) (hne : above ≠ dir) : dir ++ [sub] <+: above := by
  obtain ⟨rest, rfl⟩ := hbelow
  cases rest with
  | nil => simp at hne
  | cons first rest =>
    have hfirst : dir ++ [first] <+: dir ++ first :: rest := by simp
    rwa [name_unique h (hfirst.trans (List.prefix_append _ _))]

theorem grownBelow_nil (built : List (String × Nat)) :
    GrownBelow files root depth offset dir built [] [] := by
  refine ⟨rfl, by simp, by simp, by simp, by simp⟩

/-- One subdirectory and those behind it. -/
theorem GrownBelow.cons {built : List (String × Nat)} {sub : String} {rest : List String}
    {place : Nat} {rows more : List (Source × Node)} (fresh : sub ∉ rest)
    (hplace : Run.placeOf? built sub = some place)
    (first : Grown files root depth offset (dir ++ [sub]) (some place) rows)
    (others : GrownBelow files root depth (offset + rows.length) dir built rest more) :
    GrownBelow files root depth offset dir built (sub :: rest) (rows ++ more) where
  sources := by rw [List.map_append, first.sources, others.sources, List.flatMap_cons]
  named := List.forall_mem_cons.2 ⟨by rw [hplace]; rfl, others.named⟩
  top row hrow name hdir := by
    rcases List.mem_append.1 hrow with hrow | hrow
    · have hsub := first.prefix_dir hrow
      rw [hdir] at hsub
      obtain rfl := name_unique hsub List.prefix_rfl
      rw [hplace]
      exact first.top row hrow hdir
    · exact others.top row hrow name hdir
  owned position row above name inner hrow hdir hbelow := by
    by_cases hposition : position < rows.length
    · rw [List.getElem?_append_left hposition] at hrow
      have hsub := first.prefix_dir (List.mem_of_getElem? hrow)
      rw [hdir] at hsub
      obtain rfl := name_unique hsub (hbelow.trans (List.prefix_append _ _))
      refine (first.owned position row above name hrow hdir hbelow).append fun other hother heq => ?_
      -- what comes later lies in other subdirectories
      obtain ⟨name, hname, hstart⟩ := others.prefix_dir hother
      rw [heq] at hstart
      exact fresh (name_unique hbelow hstart ▸ hname)
    · obtain ⟨behind, rfl⟩ : ∃ behind, position = rows.length + behind :=
        ⟨position - rows.length, by omega⟩
      rw [List.getElem?_append_right (by omega), Nat.add_sub_cancel_left] at hrow
      exact (others.owned behind row above name inner hrow hdir hbelow).prepend rows
  met inner hinner names name hlength hleads := by
    rcases List.mem_cons.1 hinner with rfl | hinner
    · obtain ⟨row, hrow, hdir⟩ := first.met names name hlength (by rwa [← List.append_assoc])
      exact ⟨row, List.mem_append_left _ hrow, hdir⟩
    · obtain ⟨row, hrow, hdir⟩ := others.met inner hinner names name hlength hleads
      exact ⟨row, List.mem_append_right _ hrow, hdir⟩

theorem dir_of_declarationsAt {rows : List (Source × Node)}
    (h : rows.map Prod.fst = (declarationsAt files (root ++ dir)).map fun row =>
      ⟨dir, row.1, row.2⟩) : ∀ row ∈ rows, row.1.dir = dir := by
  intro row hrow
  have hsource := List.mem_map_of_mem (f := Prod.fst) hrow
  rw [h] at hsource
  obtain ⟨_, -, hsource⟩ := List.mem_map.1 hsource
  rw [← hsource]

theorem GrownBelow.dir_ne {built : List (String × Nat)} {names : List String}
    {rows : List (Source × Node)} (h : GrownBelow files root depth offset dir built names rows) :
    ∀ row ∈ rows, row.1.dir ≠ dir := by
  intro row hrow heq
  obtain ⟨name, -, hstart⟩ := h.prefix_dir hrow
  have hlength := hstart.length_le
  rw [heq, List.length_append, List.length_singleton] at hlength
  omega

/-- The place that is looked up among the keys of a directory's nodes is that of their owner. -/
theorem owns_of_placeOf? {rows : List (Source × Node)} (own : ∀ row ∈ rows, row.1.dir = dir)
    {name : String} {place : Nat}
    (h : Run.placeOf? ((rows.map fun row => row.2.key).zipIdx offset) name = some place) :
    ∃ owner, place = offset + owner ∧ Owns rows dir name owner := by
  obtain ⟨owner, rfl, hkey, hlast⟩ := Run.last_of_placeOf? h
  rw [List.getElem?_map, Option.map_eq_some_iff] at hkey
  obtain ⟨row, hrow, hkey⟩ := hkey
  refine ⟨owner, rfl, ⟨row, hrow, own row (List.mem_of_getElem? hrow), hkey⟩, ?_⟩
  intro later row hlater hrow _ hkey
  refine hlast later hlater ?_
  rw [List.getElem?_map, hrow, Option.map_some, hkey]

/-- Every subdirectory that is walked below the files of a directory is owned by the node of one of
    them. -/
theorem GrownBelow.owns {rows more : List (Source × Node)} {start : Nat} {names : List String}
    (own : ∀ row ∈ rows, row.1.dir = dir)
    (below : GrownBelow files root depth offset dir
      ((rows.map fun row => row.2.key).zipIdx start) names more) {name : String}
    (hname : name ∈ names) :
    ∃ owner, Run.placeOf? ((rows.map fun row => row.2.key).zipIdx start) name =
      some (start + owner) ∧ Owns rows dir name owner := by
  obtain ⟨place, hplace⟩ := Option.isSome_iff_exists.1 (below.named name hname)
  obtain ⟨owner, rfl, howns⟩ := owns_of_placeOf? own hplace
  exact ⟨owner, hplace, howns⟩

/-- The files of a directory and its subdirectories. -/
theorem GrownBelow.grown {parent : Option Nat} {rows more : List (Source × Node)}
    (distinct : files.Distinct)
    (hrows : rows.map Prod.fst = (declarationsAt files (root ++ dir)).map fun row =>
      ⟨dir, row.1, row.2⟩)
    (parents : ∀ row ∈ rows, row.2.parent = parent)
    (below : GrownBelow files root depth (offset + rows.length) dir
      ((rows.map fun row => row.2.key).zipIdx offset) (directoriesAt files (root ++ dir)) more) :
    Grown files root (depth + 1) offset dir parent (rows ++ more) where
  sources := by
    rw [List.map_append, hrows, below.sources]
    rfl
  top row hrow hdir := by
    rcases List.mem_append.1 hrow with hrow | hrow
    · exact parents row hrow
    · exact absurd hdir (below.dir_ne row hrow)
  owned place row above name hrow hdir hbelow := by
    have own := dir_of_declarationsAt hrows
    by_cases hplace : place < rows.length
    · -- a file of the directory itself does not lie in a subdirectory
      rw [List.getElem?_append_left hplace] at hrow
      have hlength := hbelow.length_le
      rw [← own row (List.mem_of_getElem? hrow), hdir, List.length_append,
        List.length_singleton] at hlength
      omega
    · obtain ⟨behind, rfl⟩ : ∃ behind, place = rows.length + behind :=
        ⟨place - rows.length, by omega⟩
      rw [List.getElem?_append_right (by omega), Nat.add_sub_cancel_left] at hrow
      have hmem := List.mem_of_getElem? hrow
      obtain ⟨sub, hsub, hstart⟩ := below.prefix_dir hmem
      rw [hdir] at hstart
      by_cases habove : above = dir
      · -- the first file of a subdirectory hangs below the node that the subdirectory is named for
        subst habove
        have hparent := below.top row hmem name hdir
        obtain rfl := name_unique hstart List.prefix_rfl
        obtain ⟨owner, hfound, howns⟩ := below.owns own hsub
        have hlt := howns.lt_length
        exact ⟨owner, by omega, howns.append below.dir_ne, hparent.trans hfound⟩
      · exact (below.owned behind row above name sub hrow hdir
          (prefix_above hstart hbelow habove)).prepend rows
  met rest name hlength hleads := by
    cases rest with
    | nil =>
      have hname := (mem_directoriesAt distinct).2 hleads.2.isDirectoryAt
      obtain ⟨owner, -, howns⟩ := below.owns (dir_of_declarationsAt hrows) hname
      obtain ⟨row, hrow, hdir, hkey⟩ := howns.declares
      exact ⟨row, List.mem_append_left _ (List.mem_of_getElem? hrow), by simpa using hdir, hkey⟩
    | cons sub rest =>
      have hsub := (mem_directoriesAt distinct).2 hleads.2.isDirectoryAt
      obtain ⟨row, hrow, hdir, hkey⟩ := below.met sub hsub rest name (by simpa using hlength) hleads.2
      exact ⟨row, List.mem_append_right _ hrow, by simpa using hdir, hkey⟩

namespace Run

/-- Walking subdirectories, if each of their walks adds what it should. -/
theorem grownBelow_of_buildTrees {built : List (String × Nat)} {names : List String}
    (distinct : names.Nodup)
    (walk : ∀ sub parent (run final : Run),
      (∀ place, parent = some place → place < run.graph.size) →
      buildTree config parent (under files depth sub ((dir ++ [sub]).foldl Path.child path)
        (root ++ dir ++ [sub])) run = .ok () final →
      ∃ rows, Adds path run.graph final.graph rows ∧
        Grown files root depth run.graph.size (dir ++ [sub]) parent rows)
    {run final : Run}
    (inside : ∀ name place, placeOf? built name = some place → place < run.graph.size)
    (h : buildTrees config built (names.map fun sub =>
      under files depth sub ((dir ++ [sub]).foldl Path.child path) (root ++ dir ++ [sub])) run =
        .ok () final) :
    ∃ rows, Adds path run.graph final.graph rows ∧
      GrownBelow files root depth run.graph.size dir built names rows := by
  induction names generalizing run with
  | nil =>
    rw [List.map_nil, buildTrees] at h
    cases h
    exact ⟨[], .refl path _, grownBelow_nil built⟩
  | cons sub rest ih =>
    obtain ⟨fresh, distinct⟩ := List.nodup_cons.1 distinct
    rw [List.map_cons, buildTrees, name_under] at h
    cases hplace : placeOf? built sub with
    | none =>
      rw [hplace] at h
      cases h
    | some place =>
      rw [hplace] at h
      obtain ⟨_, middle, hfirst, hrest⟩ := Step.bind_eq_ok.1 h
      obtain ⟨rows, adds, grown⟩ := walk sub (some place) run middle
        (fun other hother => by cases hother; exact inside sub place hplace) hfirst
      have hsize := adds.size
      obtain ⟨more, addsMore, grownMore⟩ := ih distinct
        (fun name other hother => by have := inside name other hother; omega) hrest
      rw [hsize] at grownMore
      exact ⟨rows ++ more, adds.trans addsMore, .cons fresh hplace grown grownMore⟩

/-- Walking a directory below a node of the graph. -/
theorem grown_of_buildTree (distinct : files.Distinct) (depth : Nat) (dir : Place) (name : String)
    (parent : Option Nat) (run final : Run)
    (inside : ∀ place, parent = some place → place < run.graph.size)
    (h : buildTree config parent (under files depth name (dir.foldl Path.child path) (root ++ dir))
      run = .ok () final) :
    ∃ rows, Adds path run.graph final.graph rows ∧
      Grown files root depth run.graph.size dir parent rows := by
  induction depth generalizing dir name parent run final with
  | zero =>
    rw [under, buildTree] at h
    obtain ⟨built, _, hfiles, htrees⟩ := Step.bind_eq_ok.1 h
    cases hfiles
    rw [buildTrees] at htrees
    cases htrees
    exact ⟨[], .refl path _, rfl, by simp, by simp, by simp⟩
  | succ depth ih =>
    rw [under_succ, buildTree] at h
    obtain ⟨built, middle, hfiles, htrees⟩ := Step.bind_eq_ok.1 h
    have hsources : (declarationsAt files (root ++ dir)).map (fileIn (dir.foldl Path.child path)) =
        ((declarationsAt files (root ++ dir)).map fun row =>
          (⟨dir, row.1, row.2⟩ : Source)).map (Source.file path) := by
      rw [List.map_map]
      rfl
    rw [hsources] at hfiles
    obtain ⟨rows, adds, hrows, rfl, parents⟩ := adds_of_buildFiles inside hfiles
    have hsize := adds.size
    have distinctNames : (directoriesAt files (root ++ dir)).Nodup :=
      (pairwise_directoriesAt distinct).imp fun hlt => String.ne_of_lt hlt
    -- the owners of the subdirectories are among the nodes of the directory's own files
    have built_inside : ∀ key place,
        placeOf? ((rows.map fun row => row.2.key).zipIdx run.graph.size) key = some place →
          place < middle.graph.size := by
      intro key place hplace
      obtain ⟨owner, rfl, hkey, -⟩ := last_of_placeOf? hplace
      have hlt := (List.getElem?_eq_some_iff.1 hkey).1
      rw [List.length_map] at hlt
      omega
    have walk : ∀ sub parent (run final : Run),
        (∀ place, parent = some place → place < run.graph.size) →
        buildTree config parent (under files depth sub ((dir ++ [sub]).foldl Path.child path)
          (root ++ dir ++ [sub])) run = .ok () final →
        ∃ rows, Adds path run.graph final.graph rows ∧
          Grown files root depth run.graph.size (dir ++ [sub]) parent rows := by
      intro sub parent run final inside hsub
      rw [List.append_assoc] at hsub
      exact ih (dir ++ [sub]) sub parent run final inside hsub
    obtain ⟨more, addsMore, below⟩ := grownBelow_of_buildTrees distinctNames walk built_inside
      (by simpa only [List.foldl_append, List.foldl_cons, List.foldl_nil] using htrees)
    rw [hsize] at below
    exact ⟨rows ++ more, adds.trans addsMore, below.grown distinct hrows parents⟩

end Run

end Walk

/-! ## Loading -/

/-- Whether the nodes of a graph stand for the declaration files of the tree at a place, each in its
    row with the one that it is built of. -/
structure Shape (path : Path) (files : FileTree) (root : Place) (rows : List (Source × Node))
    (graph : Graph) : Prop where
  /-- The graph holds the nodes of the rows in their order. -/
  nodes : graph.nodes = rows.map Prod.snd
  /-- There is one row for each declaration file, in the order of the walk. -/
  complete : ∀ source, source ∈ rows.map Prod.fst ↔ source.StandsIn files root
  ordered : (rows.map Prod.fst).Pairwise Source.Before
  /-- A node is built of the declaration in its file. -/
  built : ∀ row ∈ rows, BuiltFrom path graph row
  /-- A node from a file of the root has no parent. -/
  top : ∀ row ∈ rows, row.1.dir = [] → row.2.parent = none
  /-- Any other one hangs below the last node, built before it, that a file of the directory above
      declares under the name of its own directory. -/
  owned : ∀ place row above name, rows[place]? = some row → row.1.dir = above ++ [name] →
    ∃ owner, row.2.parent = some owner ∧ owner < place ∧ Owns rows above name owner
  /-- There is such a node for each directory, also for an empty one. -/
  met : ∀ above name, files.Leads root (above ++ [name]) →
    ∃ row ∈ rows, row.1.dir = above ∧ row.2.key = name

theorem FileTree.isDirectory_iff {files : FileTree} {path : Path} {place : Place}
    (h : files.locate? path = some place) :
    files.isDirectory path = true ↔ files.isDirectoryAt place = true := by
  rw [FileTree.isDirectoryAt_iff]
  unfold FileTree.isDirectory FileTree.find?
  rw [h, Option.bind_some]
  cases hentry : files.entryAt? place with
  | none => simp
  | some entry =>
    cases entry with
    | directory => simp
    | file content => cases path.namesDirectory <;> simp

/-- Where there is no directory, there is nothing to build. -/
theorem Shape.nil {path : Path} {files : FileTree} {root : Place}
    (h : ¬ files.isDirectoryAt root = true) : Shape path files root [] .empty where
  nodes := rfl
  complete _ := ⟨by simp, fun hstands => absurd hstands.leads.isDirectoryAt h⟩
  ordered := .nil
  built := by simp
  top := by simp
  owned := by simp
  met _ _ hleads := absurd hleads.isDirectoryAt h

namespace Run

variable {config : Config} {run : Run}

/-- Loading walks the directory of the declarations; where the path names something else, it does
    nothing. -/
theorem load_eq_ok {count : Nat} {loaded : Run} (h : load config run = .ok count loaded) :
    ∃ root, run.files.locate? config.declarationsDir = some root ∧ count = loaded.graph.size ∧
      (run.files.isDirectoryAt root = true ∧
          buildTree config none
            (under run.files (longestPlace run.files + 1) "" config.declarationsDir root) run =
              .ok () loaded ∨
        ¬ run.files.isDirectoryAt root = true ∧ loaded = run) := by
  obtain ⟨_, _, hget, hread⟩ := Step.bind_eq_ok.1 h
  cases hget
  obtain ⟨tree, _, htree, hwalk⟩ := Step.bind_eq_ok.1 hread
  obtain ⟨hpath, hsame⟩ := Step.ofExcept_eq_ok.1 htree
  rw [hsame] at hwalk
  obtain ⟨_, final, hbuild, hanswer⟩ := Step.bind_eq_ok.1 hwalk
  cases hanswer
  unfold DeclarationTree.ofPath at hpath
  split at hpath
  · next root hroot =>
    refine ⟨root, hroot, rfl, ?_⟩
    rw [← FileTree.isDirectory_iff hroot]
    split at hpath
    · next hdirectory =>
      cases hpath
      exact .inl ⟨hdirectory, hbuild⟩
    · next hother =>
      split at hpath
      · cases hpath
        rw [buildTree] at hbuild
        obtain ⟨built, _, hfiles, htrees⟩ := Step.bind_eq_ok.1 hbuild
        cases hfiles
        rw [buildTrees] at htrees
        cases htrees
        exact .inr ⟨hother, rfl⟩
      · cases hpath
  · cases hpath

/-- The walk of a directory into an empty graph. -/
theorem shape_of_buildTree {root : Place} {loaded : Run} (distinct : run.files.Distinct)
    (fresh : run.graph = .empty) (hplace : run.files.isDirectoryAt root = true)
    (h : buildTree config none
      (under run.files (longestPlace run.files + 1) "" config.declarationsDir root) run =
        .ok () loaded) :
    ∃ rows, loaded.graph.size = rows.length ∧
      Shape config.declarationsDir run.files root rows loaded.graph := by
  have hwalk : buildTree config none (under run.files (longestPlace run.files + 1) ""
      ([].foldl Path.child config.declarationsDir) (root ++ [])) run = .ok () loaded := by
    rw [List.append_nil]
    exact h
  obtain ⟨rows, adds, grown⟩ := grown_of_buildTree distinct _ [] "" none run loaded nofun hwalk
  have hsize : run.graph.size = 0 := by rw [fresh]; rfl
  refine ⟨rows, by rw [adds.size, hsize, Nat.zero_add], ?_, ?_, ?_, adds.built, grown.top, ?_, ?_⟩
  · rw [adds.nodes, fresh]
    rfl
  · intro source
    rw [grown.sources]
    exact mem_sourcesUnder_iff_standsIn distinct hplace
  · rw [grown.sources]
    exact pairwise_sourcesUnder distinct _ _
  · intro place row above name hrow hdir
    obtain ⟨owner, hlt, howns, hparent⟩ :=
      grown.owned place row above name hrow hdir List.nil_prefix
    exact ⟨owner, by rw [hparent, hsize, Nat.zero_add], hlt, howns⟩
  · intro above name hleads
    -- the walk goes deeper than any place of the tree
    have hlength : above.length < longestPlace run.files + 1 := by
      have hentry := FileTree.isDirectoryAt_iff.1 hleads.last
      rw [← List.append_assoc] at hentry
      exact length_lt_of_entryAt? distinct hentry
    simpa using grown.met above name hlength (by simpa using hleads)

theorem shape_of_load {count : Nat} {loaded : Run} (distinct : run.files.Distinct)
    (fresh : run.graph = .empty) (h : load config run = .ok count loaded) :
    ∃ root rows, run.files.locate? config.declarationsDir = some root ∧ count = rows.length ∧
      Shape config.declarationsDir run.files root rows loaded.graph := by
  obtain ⟨root, hroot, rfl, ⟨hplace, hwalk⟩ | ⟨hnowhere, rfl⟩⟩ := load_eq_ok h
  · obtain ⟨rows, hsize, shape⟩ := shape_of_buildTree distinct fresh hplace hwalk
    exact ⟨root, rows, hroot, hsize, shape⟩
  · rw [fresh]
    exact ⟨root, [], hroot, rfl, .nil hnowhere⟩

/-- Loading into an empty graph gives each declaration file of the tree one node, in the order of the
    walk: a directory's files by their names and then its subdirectories by theirs. A node from a
    subdirectory hangs below the last node that the files of the enclosing directory declare under
    its name, which comes before it, and a node's id is its parent's with its own segments behind it.
    Where a subdirectory has no such node, loading fails. -/
theorem load_shape (config : Config) (run : Run) (distinct : run.files.Distinct)
    (fresh : run.graph = .empty) :
    (∀ count loaded, load config run = .ok count loaded →
      ∃ root rows, run.files.locate? config.declarationsDir = some root ∧ count = rows.length ∧
        Shape config.declarationsDir run.files root rows loaded.graph) ∧
    (∀ root above name, run.files.locate? config.declarationsDir = some root →
      run.files.Leads root (above ++ [name]) →
      (∀ source : Source, source.StandsIn run.files root → source.dir = above →
        ∀ declaration, (source.file config.declarationsDir).declaration = .ok declaration →
          declaration.key ≠ name) →
      ∃ error failed, load config run = .error error failed) := by
  refine ⟨fun count loaded h => shape_of_load distinct fresh h, ?_⟩
  intro root above name hroot hleads undeclared
  cases h : load config run with
  | error error failed => exact ⟨error, failed, rfl⟩
  | ok count loaded =>
    obtain ⟨_, rows, hlocate, -, shape⟩ := shape_of_load distinct fresh h
    obtain rfl := Option.some.inj (hroot.symm.trans hlocate)
    obtain ⟨row, hrow, hdir, hkey⟩ := shape.met above name hleads
    obtain ⟨hdeclared, hfits⟩ := shape.built row hrow
    have hstands := (shape.complete row.1).1 (List.mem_map_of_mem hrow)
    exact absurd (hfits.key.symm.trans hkey) (undeclared row.1 hstands hdir _ hdeclared)

/-- Two files that declare one key, a directory of its name, and one file there. -/
def repeatedKeyFiles : FileTree :=
  ⟨[(["redfish"], .directory), (["redfish", "A"], .directory),
    (["redfish", "A", "C.yaml"], .file ("C@dynamic: \x7bSchema: A, Prefix: /x//y, " ++
      "Parameter: \x7bType: Static, Parameter: Id\x7d\x7d").toUTF8),
    (["redfish", "A.yaml"], .file "A: \x7bSchema: A\x7d".toUTF8),
    (["redfish", "B.yaml"], .file "A: \x7bSchema: A, Segment: B\x7d".toUTF8),
    (["s"], .directory), (["s", "csdl"], .directory), (["s", "csdl", "A_v1.xml"], .file .empty),
    (["s", "json-schema"], .directory), (["s", "json-schema", "A.json"], .file "\x7b\x7d".toUTF8),
    (["s", "openapi"], .directory), (["s", "openapi", "A.yaml"], .file .empty)], []⟩

/-- A directory that no file next to it declares a node for. -/
def ownerlessFiles : FileTree :=
  ⟨[(["redfish"], .directory), (["redfish", "Z"], .directory)], []⟩

/-- The node in the subdirectory hangs below the second of the two nodes; and a directory without a
    node next to it is not loaded, although there is nothing in it. -/
theorem load_shape_repeatedKey :
    (∃ loaded root rows, load bareConfig (start bareConfig repeatedKeyFiles) = .ok 3 loaded ∧
      Shape bareConfig.declarationsDir repeatedKeyFiles root rows loaded.graph ∧
      loaded.graph.nodes.map (fun node => (node.id, node.parent)) =
        [("/redfish/A", none), ("/redfish/B", none), ("/redfish/B/x/y/\x7bId\x7d", some 1)]) ∧
    ∃ error failed, load bareConfig (start bareConfig ownerlessFiles) = .error error failed := by
  constructor
  · have stored : load bareConfig (start bareConfig repeatedKeyFiles) =
        loadStored bareConfig ["redfish"] (start bareConfig repeatedKeyFiles) :=
      load_of_inOrder (by decide +kernel) (by decide +kernel) (by decide +kernel)
    obtain ⟨count, loaded, hload, rfl, hnodes⟩ : ∃ count loaded,
        loadStored bareConfig ["redfish"] (start bareConfig repeatedKeyFiles) = .ok count loaded ∧
        count = 3 ∧ loaded.graph.nodes.map (fun node => (node.id, node.parent)) =
          [("/redfish/A", none), ("/redfish/B", none), ("/redfish/B/x/y/\x7bId\x7d", some 1)] := by
      decide +kernel
    rw [← stored] at hload
    obtain ⟨root, rows, -, -, shape⟩ :=
      (load_shape bareConfig (start bareConfig repeatedKeyFiles) (by decide +kernel) rfl).1 3
        loaded hload
    exact ⟨loaded, root, rows, hload, shape, hnodes⟩
  · have distinct : ownerlessFiles.Distinct := by decide +kernel
    refine (load_shape bareConfig (start bareConfig ownerlessFiles) distinct rfl).2 ["redfish"] []
      "Z" (by decide +kernel) (by decide +kernel) ?_
    intro source hstands
    -- there is no file at all
    have hentry := FileTree.fileAt?_eq_some_iff.1 hstands.stands
    have hmem := (FileTree.entryAt?_eq_some_iff distinct (by simp)).1 hentry
    simp [ownerlessFiles] at hmem

end Run

end ResourceModel

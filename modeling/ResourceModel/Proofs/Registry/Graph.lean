import Mathlib.Data.List.Nodup
import Mathlib.Data.List.Pairwise
import ResourceModel.Proofs.Registry.History
import ResourceModel.Proofs.Registry.Idempotence
import ResourceModel.Registry.Dot

set_option autoImplicit false

/-! # The dependency graph

The nodes of the graph are numbered in the order in which their ids came to be known, and the id of a
node is its label. Whatever is done with a registry, also in vain, each id has one node, the graph has
no loops and no double edges, every edge leads to a registered schema, and nothing is taken away. So
the dependencies of a schema ascend, and a drawing shows each id and each edge once. -/

namespace ResourceModel.Registry

/-! ## Texts in ascending order -/

theorem perm_insertText (text : String) (texts : List String) :
    (insertText text texts).Perm (text :: texts) := by
  induction texts with
  | nil => exact .refl _
  | cons other rest ih =>
    unfold insertText
    split
    · exact (ih.cons other).trans (.swap text other rest)
    · exact .refl _

theorem perm_sortTexts (texts : List String) : (sortTexts texts).Perm texts := by
  induction texts with
  | nil => exact .refl _
  | cons text rest ih => exact (perm_insertText text (sortTexts rest)).trans (ih.cons text)

theorem pairwise_insertText (text : String) {texts : List String} (h : texts.Pairwise (· ≤ ·)) :
    (insertText text texts).Pairwise (· ≤ ·) := by
  induction texts with
  | nil => exact List.pairwise_singleton _ _
  | cons other rest ih =>
    obtain ⟨hother, hrest⟩ := List.pairwise_cons.1 h
    unfold insertText
    split
    · next hlt =>
      refine List.pairwise_cons.2 ⟨fun later hlater => ?_, ih hrest⟩
      rcases List.mem_cons.1 ((perm_insertText text rest).mem_iff.1 hlater) with rfl | hlater
      · exact Std.le_of_lt hlt
      · exact hother later hlater
    · next hle =>
      refine List.pairwise_cons.2 ⟨fun later hlater => ?_, h⟩
      rcases List.mem_cons.1 hlater with rfl | hlater
      · exact String.not_lt.1 hle
      · exact String.le_trans (String.not_lt.1 hle) (hother later hlater)

theorem pairwise_sortTexts (texts : List String) : (sortTexts texts).Pairwise (· ≤ ·) := by
  induction texts with
  | nil => exact .nil
  | cons text rest ih => exact pairwise_insertText text ih

/-- Texts that are all different ascend strictly. -/
theorem ascending_sortTexts {texts : List String} (h : texts.Nodup) :
    (sortTexts texts).Pairwise (· < ·) :=
  (pairwise_sortTexts texts).imp₂ (fun _ _ hle hne => Std.lt_of_le_of_ne hle hne)
    ((perm_sortTexts texts).nodup_iff.2 h)

/-! ## Simple graphs -/

/-- The node of an id. -/
def nodeOf? (registry : Registry) (id : String) : Option Nat :=
  registry.ids.idxOf? id

/-- Whether no two nodes have one id, every registered schema has a node, and the edges are different
    from each other, each between two different nodes, to that of a registered schema. -/
structure IsSimple (registry : Registry) : Prop where
  nodes : registry.ids.Nodup
  registered : ∀ id, (registry.get? id).isSome → id ∈ registry.ids
  edges : registry.edges.Nodup
  loopless : ∀ edge ∈ registry.edges, edge.1 ≠ edge.2
  sources : ∀ edge ∈ registry.edges, edge.1 ∈ registry.ids
  targets : ∀ edge ∈ registry.edges, (registry.get? edge.2).isSome

/-- Where no two nodes have one id, the node of an id is the one that is labelled with it. -/
theorem IsSimple.nodeOf?_eq_some_iff {registry : Registry} (h : registry.IsSimple) {id : String}
    {node : Nat} : registry.nodeOf? id = some node ↔ registry.ids[node]? = some id := by
  unfold nodeOf?
  rw [List.idxOf?_eq_some_iff, List.getElem?_eq_some_iff]
  constructor
  · rintro ⟨hnode, hid, -⟩
    exact ⟨hnode, hid⟩
  · -- an id that stands at one place stands at no earlier one
    rintro ⟨hnode, hid⟩
    refine ⟨hnode, hid, fun earlier hearlier hsame => ?_⟩
    have heq := h.nodes.getElem_inj_iff.1 (hsame.trans hid.symm)
    omega

theorem isSimple_empty : empty.IsSimple :=
  ⟨.nil, fun _ h => by simp at h, .nil, fun _ h => by simp [empty] at h,
    fun _ h => by simp [empty] at h, fun _ h => by simp [empty] at h⟩

/-- Whether a later graph has all nodes of an earlier one, with the same numbers, and all its
    edges. -/
structure Continues (old new : Registry) : Prop where
  nodes : old.ids <+: new.ids
  edges : old.edges <+: new.edges

theorem Continues.refl (registry : Registry) : registry.Continues registry :=
  ⟨List.prefix_rfl, List.prefix_rfl⟩

theorem Continues.trans {first second third : Registry} (h : first.Continues second)
    (h' : second.Continues third) : first.Continues third :=
  ⟨h.nodes.trans h'.nodes, h.edges.trans h'.edges⟩

theorem Continues.of_edges {old new : Registry} (nodes : old.ids <+: new.ids)
    (edges : new.edges = old.edges) : old.Continues new :=
  ⟨nodes, edges.symm ▸ List.prefix_rfl⟩

/-- An edge that was there is still one, between the same nodes. -/
theorem IsSimple.of_edges {old new : Registry} (h : old.IsSimple) (later : old.Continues new)
    (nodes : new.ids.Nodup) (registered : ∀ id, (new.get? id).isSome → id ∈ new.ids)
    (held : ∀ id, (old.get? id).isSome → (new.get? id).isSome) (edges : new.edges = old.edges) :
    new.IsSimple := by
  refine ⟨nodes, registered, ?_, ?_, ?_, ?_⟩
  · rw [edges]
    exact h.edges
  · rw [edges]
    exact h.loopless
  · rw [edges]
    exact fun edge hedge => later.nodes.subset (h.sources edge hedge)
  · rw [edges]
    exact fun edge hedge => held edge.2 (h.targets edge hedge)

/-! ## Every change keeps the graph simple -/

theorem continues_mention (registry : Registry) (id : String) :
    registry.Continues (registry.mention id) := by
  unfold mention
  split
  · exact .refl registry
  · exact ⟨List.prefix_append _ _, List.prefix_rfl⟩

theorem nodup_mention {registry : Registry} (h : registry.ids.Nodup) (id : String) :
    (registry.mention id).ids.Nodup := by
  unfold mention
  split
  · exact h
  · next hnew =>
    exact List.nodup_append.2 ⟨h, List.nodup_singleton id, fun other hother text htext => by
      rw [List.mem_singleton.1 htext]
      rintro rfl
      exact hnew hother⟩

theorem IsSimple.mention {registry : Registry} (h : registry.IsSimple) (id : String) :
    (registry.mention id).IsSimple := by
  refine h.of_edges (continues_mention registry id) (nodup_mention h.nodes id)
    (fun other hother => ?_) (fun other hother => ?_) (edges_mention registry id)
  · rw [get?_of_entries (entries_mention registry id)] at hother
    exact mem_ids_mention.2 (Or.inl (h.registered other hother))
  · rw [get?_of_entries (entries_mention registry id)]
    exact hother

theorem continues_register (registry : Registry) (entry : Entry) :
    registry.Continues (registry.register entry) := by
  refine .of_edges ?_ (edges_register registry entry)
  rw [ids_register]
  exact (continues_mention registry entry.id).nodes

theorem IsSimple.register {registry : Registry} (h : registry.IsSimple) (entry : Entry) :
    (registry.register entry).IsSimple := by
  refine h.of_edges (continues_register registry entry) ?_ (fun id hid => ?_) (fun id hid => ?_)
    (edges_register registry entry)
  · rw [ids_register]
    exact nodup_mention h.nodes entry.id
  · rw [ids_register, mem_ids_mention]
    exact ((get?_register_isSome registry entry id).1 hid).imp (h.registered id) Eq.symm
  · exact (get?_register_isSome registry entry id).2 (Or.inl hid)

theorem continues_addEdge (registry : Registry) (source target : String) :
    registry.Continues (registry.addEdge source target) := by
  have mentioned := (continues_mention registry source).trans (continues_mention _ target)
  unfold addEdge
  simp only
  split
  · exact mentioned
  · exact ⟨mentioned.nodes, mentioned.edges.trans (List.prefix_append _ _)⟩

/-- A new edge is no loop, and leads to a registered schema. -/
theorem IsSimple.addEdge {registry : Registry} (h : registry.IsSimple) {source target : String}
    (hne : source ≠ target) (htarget : (registry.get? target).isSome) :
    (registry.addEdge source target).IsSimple := by
  have simple := (h.mention source).mention target
  have hentries : ((registry.mention source).mention target).entries = registry.entries := by
    rw [entries_mention, entries_mention]
  unfold Registry.addEdge
  simp only
  split
  · exact simple
  · next hnew =>
    refine ⟨simple.nodes, simple.registered, ?_, fun edge hedge => ?_, fun edge hedge => ?_,
      fun edge hedge => ?_⟩
    · refine List.nodup_append.2
        ⟨simple.edges, List.nodup_singleton _, fun other hother edge hedge => ?_⟩
      rw [List.mem_singleton.1 hedge]
      rintro rfl
      exact hnew hother
    · rcases List.mem_append.1 hedge with hedge | hedge
      · exact simple.loopless edge hedge
      · rw [List.mem_singleton.1 hedge]
        exact hne
    · rcases List.mem_append.1 hedge with hedge | hedge
      · exact simple.sources edge hedge
      · rw [List.mem_singleton.1 hedge]
        simp
    · rcases List.mem_append.1 hedge with hedge | hedge
      · exact simple.targets edge hedge
      · rw [List.mem_singleton.1 hedge]
        exact (get?_of_entries hentries target).symm ▸ htarget

theorem accumulates_continues (assets : Assets) : Accumulates assets Continues where
  refl := .refl
  trans := .trans
  register registry _ := continues_register registry _
  addEdge registry _ _ _ _ := continues_addEdge registry _ _

theorem accumulates_isSimple (assets : Assets) :
    Accumulates assets fun old new => old.IsSimple → new.IsSimple :=
  .of_kept (fun _ h => h.register _) fun h hne htarget => h.addEdge hne htarget

theorem ids_settle (registry : Registry) (entry : Entry) (document : Json) :
    (registry.settle entry document).ids = registry.ids := by
  unfold settle
  split
  · split <;> rfl
  · rfl

theorem edges_settle (registry : Registry) (entry : Entry) (document : Json) :
    (registry.settle entry document).edges = registry.edges := by
  unfold settle
  split
  · split <;> rfl
  · rfl

theorem continues_settle (registry : Registry) (entry : Entry) (document : Json) :
    registry.Continues (registry.settle entry document) :=
  .of_edges ((ids_settle registry entry document).symm ▸ List.prefix_rfl)
    (edges_settle registry entry document)

theorem IsSimple.settle {registry : Registry} (h : registry.IsSimple) (entry : Entry)
    (document : Json) : (registry.settle entry document).IsSimple := by
  refine h.of_edges (continues_settle registry entry document) ?_ (fun id hid => ?_)
    (fun id hid => ?_) (edges_settle registry entry document)
  · rw [ids_settle]
    exact h.nodes
  · rw [ids_settle]
    exact h.registered id ((get?_settle_isSome registry entry document id).1 hid)
  · exact (get?_settle_isSome registry entry document id).2 hid

/-! ## Every operation -/

theorem invariant_graph (assets : Assets) (old : Registry) :
    Invariant assets (fun _ => True)
      (fun registry => old.Continues registry ∧ registry.IsSimple) where
  load _ _ _ _ := trivial
  loadExtension _ _ _ _ := trivial
  dependencies registry owner uris h :=
    ⟨h.1.trans ((accumulates_continues assets).addDependencies owner uris registry),
      (accumulates_isSimple assets).addDependencies owner uris registry h.2⟩
  seed registry _ _ h := ⟨h.1.trans (continues_register registry _), h.2.register _⟩
  extension registry _ _ _ _ _ _ h _ :=
    ⟨h.1.trans (continues_register registry _), h.2.register _⟩
  settle registry _ _ _ _ _ _ h _ _ _ :=
    ⟨(h.1.trans ((accumulates_continues assets).addDependencies _ _ registry)).trans
        (continues_settle _ _ _),
      ((accumulates_isSimple assets).addDependencies _ _ registry h.2).settle _ _⟩

/-- One operation: the graph goes on, and stays simple. -/
theorem IsSimple.run {registry : Registry} (h : registry.IsSimple) (assets : Assets) (store : Store)
    (operation : Operation) :
    registry.Continues ((operation.run assets).after ⟨store, registry⟩).registry ∧
      ((operation.run assets).after ⟨store, registry⟩).registry.IsSimple := by
  refine ((invariant_graph assets registry).keeps_run operation ?_ ⟨store, registry⟩ ?_).2
  · -- an entry that is registered directly may be any
    rintro entry sound - current ⟨continues, simple⟩
    exact ⟨continues.trans (continues_register current entry), simple.register entry⟩
  · exact ⟨trivial, .refl registry, h⟩

theorem Reachable.isSimple {registry : Registry} (h : Reachable registry) : registry.IsSimple := by
  induction h with
  | empty => exact isSimple_empty
  | run _ assets store operation ih => exact (ih.run assets store operation).2

/-- The registry after operations, one after the other, each with the documents that it is used with,
    whether they succeed or fail. -/
def afterAll (operations : List (Assets × Store × Operation)) (registry : Registry) : Registry :=
  operations.foldl (fun registry call =>
    ((call.2.2.run call.1).after ⟨call.2.1, registry⟩).registry) registry

theorem IsSimple.continues_afterAll {registry : Registry} (h : registry.IsSimple)
    (operations : List (Assets × Store × Operation)) :
    registry.Continues (registry.afterAll operations) := by
  induction operations generalizing registry with
  | nil => exact .refl registry
  | cons call rest ih =>
    obtain ⟨continues, simple⟩ := h.run call.1 call.2.1 call.2.2
    exact continues.trans (ih simple)

/-! ## Dependencies -/

theorem mem_dependencies {registry : Registry} {id other : String} :
    other ∈ registry.dependencies id ↔ (id, other) ∈ registry.edges := by
  unfold dependencies
  rw [(perm_sortTexts _).mem_iff]
  constructor
  · intro h
    obtain ⟨⟨source, target⟩, hfiltered, rfl⟩ := List.mem_map.1 h
    obtain ⟨hedge, hsource⟩ := List.mem_filter.1 hfiltered
    obtain rfl : source = id := by simpa using hsource
    exact hedge
  · intro h
    exact List.mem_map.2 ⟨(id, other), List.mem_filter.2 ⟨h, by simp⟩, rfl⟩

theorem IsSimple.ascending_dependencies {registry : Registry} (h : registry.IsSimple) (id : String) :
    (registry.dependencies id).Pairwise (· < ·) := by
  refine ascending_sortTexts (List.Nodup.map_on (fun first hfirst second hsecond heq => ?_)
    (h.edges.filter _))
  have hsource : first.1 = second.1 := by
    have hfirst := (List.mem_filter.1 hfirst).2
    have hsecond := (List.mem_filter.1 hsecond).2
    simp only [decide_eq_true_eq] at hfirst hsecond
    exact hfirst.trans hsecond.symm
  exact Prod.ext hsource heq

/-! ## The drawing -/

/-- The edges in the order in which they are drawn. -/
def drawnEdges (registry : Registry) : List (String × String) :=
  (sortTexts registry.ids).flatMap fun id => (registry.dependencies id).map fun other => (id, other)

theorem IsSimple.perm_drawnEdges {registry : Registry} (h : registry.IsSimple) :
    registry.drawnEdges.Perm registry.edges := by
  have ids : (sortTexts registry.ids).Nodup := (perm_sortTexts registry.ids).nodup_iff.2 h.nodes
  have nodup : registry.drawnEdges.Nodup := by
    refine List.nodup_flatMap.2 ⟨fun id _ => ?_, ids.imp fun hne edge hfirst hsecond => ?_⟩
    · have dependencies := (h.ascending_dependencies id).imp fun hlt => Std.ne_of_lt hlt
      exact dependencies.map _ fun _ _ hne heq => hne (Prod.ext_iff.1 heq).2
    · obtain ⟨_, -, rfl⟩ := List.mem_map.1 hfirst
      obtain ⟨_, -, heq⟩ := List.mem_map.1 hsecond
      exact hne (Prod.ext_iff.1 heq).1.symm
  -- neither repeats an edge, so it is enough that they have the same ones
  refine (List.perm_ext_iff_of_nodup nodup h.edges).2 fun edge => ?_
  unfold drawnEdges
  rw [List.mem_flatMap]
  constructor
  · rintro ⟨id, -, hedge⟩
    obtain ⟨other, hother, rfl⟩ := List.mem_map.1 hedge
    exact mem_dependencies.1 hother
  · intro hedge
    refine ⟨edge.1, (perm_sortTexts registry.ids).mem_iff.2 (h.sources edge hedge), ?_⟩
    exact List.mem_map.2 ⟨edge.2, mem_dependencies.2 hedge, rfl⟩

/-- What a drawing begins with. -/
def dotHead : String :=
  "digraph SchemaDependencies \x7b\n" ++ "  rankdir=LR;\n" ++
    "  node [shape=box, style=rounded, fontname=\"Helvetica\", fontsize=10];\n\n"

theorem dot_eq (registry : Registry) :
    registry.dot = dotHead ++ String.join ((sortTexts registry.ids).map registry.nodeLine) ++ "\n" ++
      String.join (registry.drawnEdges.map fun edge => edgeLine edge.1 edge.2) ++ "\x7d\n" := by
  have lines : (sortTexts registry.ids).flatMap registry.edgeLines =
      registry.drawnEdges.map fun edge => edgeLine edge.1 edge.2 := by
    unfold drawnEdges edgeLines
    rw [List.map_flatMap]
    simp only [List.map_map, Function.comp_def]
  unfold dot dotHead
  simp only [lines, String.append_assoc]

/-! ## Reachable registries -/

/-- Whatever has been done with a registry, also in vain: its ids and its nodes are one to one, every
    registered schema has a node, and its edges are different from each other, between different
    nodes, to registered schemas. Whatever is done next, all nodes and edges stay. What a schema
    depends on ascends strictly and is registered, and never the schema itself. A drawing has a line
    for each id and for each edge, and no other between its head and its end. -/
theorem Reachable.graph_simple {registry : Registry} (h : Reachable registry) :
    registry.IsSimple ∧
    (∀ id node, registry.nodeOf? id = some node ↔ registry.ids[node]? = some id) ∧
    (∀ operations, registry.Continues (registry.afterAll operations)) ∧
    (∀ id, (registry.dependencies id).Pairwise (· < ·) ∧
      ∀ other ∈ registry.dependencies id, (registry.get? other).isSome ∧ other ≠ id) ∧
    ∃ (ids : List String) (edges : List (String × String)), ids.Perm registry.ids ∧ ids.Nodup ∧
      edges.Perm registry.edges ∧ edges.Nodup ∧
      registry.dot = dotHead ++ String.join (ids.map registry.nodeLine) ++ "\n" ++
        String.join (edges.map fun edge => edgeLine edge.1 edge.2) ++ "\x7d\n" := by
  have simple := h.isSimple
  refine ⟨simple, fun id node => simple.nodeOf?_eq_some_iff, simple.continues_afterAll,
    fun id => ⟨simple.ascending_dependencies id, fun other hother => ?_⟩,
    sortTexts registry.ids, registry.drawnEdges, perm_sortTexts registry.ids, ?_,
    simple.perm_drawnEdges, ?_, dot_eq registry⟩
  · have hedge := mem_dependencies.1 hother
    exact ⟨simple.targets _ hedge, (simple.loopless _ hedge).symm⟩
  · exact (perm_sortTexts registry.ids).nodup_iff.2 simple.nodes
  · exact simple.perm_drawnEdges.nodup_iff.2 simple.edges

/-- A schema that is not registered itself depends on one that is. -/
theorem graph_simple_unregisteredOwner :
    let operation := Operation.extract (some "X")
      (.object [("P", .object [("$ref", .string "A.json")])])
    let registry := ((operation.run ⟨⟨[], []⟩, {}⟩).after .start).registry
    Reachable registry ∧ registry.ids = ["A", "X"] ∧ registry.edges = [("X", "A")] ∧
      (registry.get? "X").isNone ∧ registry.IsSimple ∧ registry.nodeOf? "X" = some 1 := by
  intro operation registry
  have reachable : Reachable registry := .run .empty ⟨⟨[], []⟩, {}⟩ .empty operation
  obtain ⟨hids, hedges, hunregistered⟩ : registry.ids = ["A", "X"] ∧
      registry.edges = [("X", "A")] ∧ (registry.get? "X").isNone := by decide +kernel
  obtain ⟨simple, node, -⟩ := reachable.graph_simple
  refine ⟨reachable, hids, hedges, hunregistered, simple, (node "X" 1).2 ?_⟩
  rw [hids]
  rfl

end ResourceModel.Registry

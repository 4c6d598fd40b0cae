import ResourceModel.Proofs.Registry.Convergence

set_option autoImplicit false

/-! # Completing a registry twice

Whatever is registered on the way through the seeds is there to stay: an id keeps its entry, in a
version once it has one, and the graph keeps its ids and edges. What the documents of the extension
area mention asks for the same versions again, so a registry that is completed stays as it is when it
is completed again. -/

namespace ResourceModel

open Step (Keeps Lasts)

/-! ## Documents that stay read -/

namespace Store

/-- Whether what was found in the extension area is still kept in a later store. -/
def Retains (store later : Store) : Prop :=
  ∀ stem found, store.extensions.lookup stem = some found → later.extensions.lookup stem = some found

theorem Retains.refl (store : Store) : store.Retains store :=
  fun _ _ h => h

theorem Retains.trans {first second third : Store} (h : first.Retains second)
    (h' : second.Retains third) : first.Retains third :=
  fun stem found hfound => h' stem found (h stem found hfound)

theorem keeps_retains_load {assets : Assets} (store : Store) (standard : Standard) (stem : String) :
    Keeps store.Retains (load assets standard stem) := by
  intro later h
  rw [load, Step.after_onPart]
  exact h

theorem keeps_retains_loadExtension {assets : Assets} (store : Store) (name tag : String) :
    Keeps store.Retains (loadExtension assets name tag) := by
  intro later h stem found hfound
  rw [loadExtension, Step.after_onPart]
  exact keeps_lookup_cached _ (h stem found hfound)

/-- An extension document that was read is kept, so reading it again changes nothing. -/
theorem lasts_loadExtension (assets : Assets) (name tag : String) :
    Lasts Retains (loadExtension assets name tag) := by
  intro store answer final h
  refine ⟨(keeps_retains_loadExtension store name tag).of_ok h (.refl store), fun last hlast => ?_⟩
  obtain ⟨rows, hcached, rfl⟩ := Step.onPart_eq_ok.1 h
  refine Step.onPart_eq_ok.2 ⟨last.extensions, ?_, rfl⟩
  rw [cached_apply, hlast _ _ (lookup_of_cached hcached)]

end Store

/-! ## Registries that grow -/

namespace Registry

/-- What a later registry has of an earlier one: an entry for each id, a versioned one if it had a
    version, and the ids and edges of the graph. -/
structure Extends (old new : Registry) : Prop where
  held : ∀ id, (old.get? id).isSome → (new.get? id).isSome
  versioned : ∀ id, old.isVersioned id → new.isVersioned id
  ids : ∀ id ∈ old.ids, id ∈ new.ids
  edges : ∀ edge ∈ old.edges, edge ∈ new.edges

theorem Extends.refl (registry : Registry) : registry.Extends registry :=
  ⟨fun _ h => h, fun _ h => h, fun _ h => h, fun _ h => h⟩

theorem Extends.trans {first second third : Registry} (h : first.Extends second)
    (h' : second.Extends third) : first.Extends third :=
  ⟨fun id hid => h'.held id (h.held id hid), fun id hid => h'.versioned id (h.versioned id hid),
    fun id hid => h'.ids id (h.ids id hid), fun edge hedge => h'.edges edge (h.edges edge hedge)⟩

theorem Grows.extends {old new : Registry} (h : old.Grows new) (ids : ∀ id ∈ old.ids, id ∈ new.ids)
    (edges : ∀ edge ∈ old.edges, edge ∈ new.edges) : old.Extends new := by
  refine ⟨fun id => h.isSome, fun id hversioned => ?_, ids, edges⟩
  obtain ⟨entry, hentry, hversion⟩ := isVersioned_iff.1 hversioned
  exact isVersioned_iff.2 ⟨entry, h.get?_of_versioned hentry hversion, hversion⟩

/-! ### The graph -/

@[simp]
theorem mem_ids_mention {registry : Registry} {id other : String} :
    other ∈ (registry.mention id).ids ↔ other ∈ registry.ids ∨ other = id := by
  unfold mention
  split
  · next hknown =>
    constructor
    · exact Or.inl
    · rintro (h | rfl)
      · exact h
      · exact hknown
  · simp

@[simp]
theorem edges_mention (registry : Registry) (id : String) :
    (registry.mention id).edges = registry.edges := by
  unfold mention
  split <;> rfl

theorem mention_of_mem {registry : Registry} {id : String} (h : id ∈ registry.ids) :
    registry.mention id = registry :=
  if_pos h

theorem ids_register (registry : Registry) (entry : Entry) :
    (registry.register entry).ids = (registry.mention entry.id).ids := by
  unfold register
  simp only
  split <;> rfl

theorem edges_register (registry : Registry) (entry : Entry) :
    (registry.register entry).edges = registry.edges := by
  unfold register
  simp only
  split <;> simp

theorem ids_addEdge (registry : Registry) (source target : String) :
    (registry.addEdge source target).ids = ((registry.mention source).mention target).ids := by
  unfold addEdge
  simp only
  split <;> rfl

theorem mem_edges_addEdge {registry : Registry} {source target : String}
    {edge : String × String} :
    edge ∈ (registry.addEdge source target).edges ↔
      edge ∈ registry.edges ∨ edge = (source, target) := by
  unfold addEdge
  simp only [edges_mention]
  split
  · next hedge =>
    simp only [edges_mention]
    constructor
    · exact Or.inl
    · rintro (h | rfl)
      · exact h
      · exact hedge
  · simp

theorem addEdge_of_mem {registry : Registry} {source target : String}
    (hsource : source ∈ registry.ids) (htarget : target ∈ registry.ids)
    (hedge : (source, target) ∈ registry.edges) : registry.addEdge source target = registry := by
  simp only [addEdge, mention_of_mem hsource, mention_of_mem htarget, if_pos hedge]

/-! ### Every change extends -/

theorem extends_register (registry : Registry) (entry : Entry) :
    registry.Extends (registry.register entry) := by
  refine (grows_register registry entry).extends (fun id hid => ?_) fun edge hedge => ?_
  · rw [ids_register]
    exact mem_ids_mention.2 (Or.inl hid)
  · rw [edges_register]
    exact hedge

theorem extends_addEdge (registry : Registry) (source target : String) :
    registry.Extends (registry.addEdge source target) := by
  refine (Grows.of_entries (entries_addEdge registry source target)).extends (fun id hid => ?_)
    fun edge hedge => mem_edges_addEdge.2 (Or.inl hedge)
  rw [ids_addEdge]
  exact mem_ids_mention.2 (Or.inl (mem_ids_mention.2 (Or.inl hid)))

theorem accumulates_extends (assets : Assets) : Accumulates assets Extends where
  refl := .refl
  trans := .trans
  register registry _ := extends_register registry _
  addEdge registry _ _ _ _ := extends_addEdge registry _ _

theorem extends_settle (registry : Registry) (entry : Entry) (document : Json) :
    registry.Extends (registry.settle entry document) := by
  unfold settle
  split
  · next current hcurrent =>
    split
    · -- the row is marked, its version is kept
      have lookup : ∀ id, Table.get? (Table.put registry.entries entry.id
          { current with resolved := true, document := some document }) id =
            if id = entry.id then
              some { current with resolved := true, document := some document }
            else registry.get? id :=
        fun id => Table.get?_put _ _ _ _
      refine ⟨fun id hid => ?_, fun id hid => ?_, fun _ h => h, fun _ h => h⟩
      · rw [get?, lookup]
        split
        · rfl
        · exact hid
      · rw [isVersioned, get?, lookup]
        split
        · next heq =>
          rw [heq, isVersioned, hcurrent] at hid
          exact hid
        · exact hid
    · exact .refl registry
  · exact .refl registry

/-! ## What is there already -/

/-- Whether a registry has what a mention asks for: an entry, in a version if the mention has one. -/
structure HasMention (assets : Assets) (registry : Registry) (mentioned : Mention) : Prop where
  held : (registry.get? mentioned.id).isSome
  versioned : (entryOf assets mentioned).version.isSome → registry.isVersioned mentioned.id
  known : registry.isVersioned mentioned.id ∨ mentioned.id ∈ registry.ids

theorem HasMention.extends {assets : Assets} {old new : Registry} {mentioned : Mention}
    (h : old.HasMention assets mentioned) (later : old.Extends new) :
    new.HasMention assets mentioned :=
  ⟨later.held _ h.held, fun hversion => later.versioned _ (h.versioned hversion),
    h.known.imp (later.versioned _) (later.ids _)⟩

theorem hasMention_registerMention (assets : Assets) (registry : Registry) (mentioned : Mention) :
    (registry.registerMention assets mentioned).HasMention assets mentioned := by
  have held := (get?_registerMention_isSome assets registry mentioned mentioned.id).2 (Or.inr rfl)
  unfold registerMention at held ⊢
  split at held
  · next hversioned =>
    rw [if_pos hversioned]
    exact ⟨held, fun _ => hversioned, Or.inl hversioned⟩
  · next hversioned =>
    rw [if_neg hversioned]
    refine ⟨held, fun hversion => ?_, Or.inr ?_⟩
    · -- an entry with a version is taken, as there is none yet
      have haccepts : registry.accepts (entryOf assets mentioned) := by
        refine accepts_iff.2 fun existing hexisting => ⟨?_, hversion⟩
        rw [entryOf_id] at hexisting
        simpa [isVersioned, hexisting] using hversioned
      refine isVersioned_iff.2 ⟨entryOf assets mentioned, ?_, hversion⟩
      rw [get?_register, if_pos ⟨(entryOf_id assets mentioned).symm, haccepts⟩]
    · rw [ids_register, entryOf_id]
      exact mem_ids_mention.2 (Or.inr rfl)

/-- Registering a mention again changes nothing. -/
theorem HasMention.registerMention_eq {assets : Assets} {registry : Registry} {mentioned : Mention}
    (h : registry.HasMention assets mentioned) :
    registry.registerMention assets mentioned = registry := by
  unfold registerMention
  split
  · rfl
  · next hversioned =>
    have hknown := h.known.resolve_left hversioned
    obtain ⟨existing, hexisting⟩ := Option.isSome_iff_exists.1 h.held
    -- neither the entry that is there nor that of the mention has a version
    have hrefused : ¬ registry.accepts (entryOf assets mentioned) := by
      intro haccepts
      have hexisting' : registry.get? (entryOf assets mentioned).id = some existing := by
        rw [entryOf_id, hexisting]
      exact hversioned (h.versioned (accepts_iff.1 haccepts existing hexisting').2)
    simp only [register, if_neg hrefused, entryOf_id, mention_of_mem hknown]

/-- Whether a registry has the schema that a reference mentions, and its owner's dependency on it. -/
def HasDependency (assets : Assets) (owner : Option String) (registry : Registry) (uri : String) :
    Prop :=
  ∀ mentioned, Mention.ofUri? uri = some mentioned → registry.HasMention assets mentioned ∧
    ∀ source, owner = some source → source ≠ mentioned.id →
      source ∈ registry.ids ∧ mentioned.id ∈ registry.ids ∧
        (source, mentioned.id) ∈ registry.edges

theorem HasDependency.extends {assets : Assets} {owner : Option String} {old new : Registry}
    {uri : String} (h : old.HasDependency assets owner uri) (later : old.Extends new) :
    new.HasDependency assets owner uri := by
  intro mentioned hmentioned
  obtain ⟨hmention, hedge⟩ := h mentioned hmentioned
  refine ⟨hmention.extends later, fun source howner hne => ?_⟩
  obtain ⟨hsource, htarget, hedge⟩ := hedge source howner hne
  exact ⟨later.ids _ hsource, later.ids _ htarget, later.edges _ hedge⟩

theorem hasDependency_addDependency (assets : Assets) (owner : Option String) (registry : Registry)
    (uri : String) :
    (registry.addDependency assets owner uri).HasDependency assets owner uri := by
  intro mentioned hmentioned
  have hmention := hasMention_registerMention assets registry mentioned
  simp only [addDependency, hmentioned]
  cases owner with
  | none => exact ⟨hmention, fun _ h => by cases h⟩
  | some source =>
    simp only
    split
    · next heq =>
      refine ⟨hmention, fun other hother hne => ?_⟩
      cases hother
      exact absurd heq hne
    · refine ⟨hmention.extends (extends_addEdge _ _ _), fun other hother _ => ?_⟩
      cases hother
      refine ⟨?_, ?_, mem_edges_addEdge.2 (Or.inr rfl)⟩
      · rw [ids_addEdge]
        exact mem_ids_mention.2 (Or.inl (mem_ids_mention.2 (Or.inr rfl)))
      · rw [ids_addEdge]
        exact mem_ids_mention.2 (Or.inr rfl)

theorem HasDependency.addDependency_eq {assets : Assets} {owner : Option String}
    {registry : Registry} {uri : String} (h : registry.HasDependency assets owner uri) :
    registry.addDependency assets owner uri = registry := by
  unfold addDependency
  split
  · rfl
  · next mentioned hmentioned =>
    obtain ⟨hmention, hedge⟩ := h mentioned hmentioned
    simp only [hmention.registerMention_eq]
    split
    · next source =>
      split
      · rfl
      · next hne =>
        obtain ⟨hsource, htarget, hedge⟩ := hedge source rfl hne
        exact addEdge_of_mem hsource htarget hedge
    · rfl

theorem hasDependency_addDependencies (assets : Assets) (owner : Option String)
    (uris : List String) (registry : Registry) :
    ∀ uri ∈ uris, (registry.addDependencies assets owner uris).HasDependency assets owner uri := by
  induction uris generalizing registry with
  | nil => simp
  | cons first rest ih =>
    refine List.forall_mem_cons.2 ⟨?_, ih (registry.addDependency assets owner first)⟩
    exact (hasDependency_addDependency assets owner registry first).extends
      ((accumulates_extends assets).addDependencies owner rest _)

theorem addDependencies_of_has {assets : Assets} {owner : Option String} {uris : List String}
    {registry : Registry} (h : ∀ uri ∈ uris, registry.HasDependency assets owner uri) :
    registry.addDependencies assets owner uris = registry := by
  induction uris with
  | nil => rfl
  | cons first rest ih =>
    obtain ⟨hfirst, hrest⟩ := List.forall_mem_cons.1 h
    rw [addDependencies, List.foldl_cons, hfirst.addDependency_eq]
    exact ih hrest

/-! ## The seeds again -/

variable {assets : Assets}

theorem lasts_addScan (owner : Option String) (scan : Scan) :
    Lasts Extends (addScan assets owner scan) := by
  refine .bind (fun _ _ _ => .trans) (.modify ?_ ?_) fun _ => ?_
  · exact (accumulates_extends assets).addDependencies owner scan.references
  · intro registry last hlast
    refine addDependencies_of_has fun uri huri => ?_
    exact (hasDependency_addDependencies assets owner scan.references registry uri huri).extends
      hlast
  · split
    · exact .pure .refl _
    · intro registry value final h
      cases h

theorem lasts_seed (id standardName : String) : Lasts Extends (seed assets id standardName) := by
  refine .bind (fun _ _ _ => .trans) (.ofExcept .refl _) fun standard => .modify ?_ ?_
  · intro registry
    split
    · exact .refl registry
    · exact extends_register registry _
  · intro registry last hlast
    have held : (last.get? id).isSome := by
      refine hlast.held id ?_
      split
      · next hsome => exact hsome
      · exact (get?_register_isSome registry _ id).2 (Or.inr rfl)
    exact if_pos held

/-- An entry with a version leaves a versioned entry of its id, so it is not taken again. -/
theorem lasts_registerVersioned {entry : Entry} (h : entry.version.isSome) :
    Lasts Extends (modify fun registry : Registry => registry.register entry) := by
  refine .modify (fun registry => extends_register registry entry) fun registry last hlast => ?_
  have hversioned : (registry.register entry).isVersioned entry.id := by
    rw [isVersioned, get?_register]
    by_cases haccepts : registry.accepts entry
    · simpa [haccepts] using h
    · -- what is refused although it has a version meets an entry with one
      cases hexisting : registry.get? entry.id with
      | none => simp [accepts, hexisting] at haccepts
      | some existing =>
        have hold : existing.version ≠ none := by
          simpa [accepts, hexisting, h] using haccepts
        simpa [haccepts, hexisting] using Option.isSome_iff_ne_none.2 hold
  have hknown : entry.id ∈ last.ids := by
    refine hlast.ids _ ?_
    rw [ids_register]
    exact mem_ids_mention.2 (Or.inr rfl)
  obtain ⟨existing, hexisting, hversion⟩ := isVersioned_iff.1 (hlast.versioned _ hversioned)
  have hrefused : ¬ last.accepts entry := by
    intro haccepts
    rw [(accepts_iff.1 haccepts existing hexisting).1] at hversion
    simp at hversion
  simp only [register, if_neg hrefused, mention_of_mem hknown]

/-! ## Completing again -/

/-- Whether a session has come from an earlier one by reading and registering more. -/
def SessionExtends (old new : Session) : Prop :=
  Session.Holds old.store.Retains old.registry.Extends new

theorem SessionExtends.refl (session : Session) : SessionExtends session session :=
  ⟨.refl session.store, .refl session.registry⟩

theorem SessionExtends.trans {first second third : Session} (h : SessionExtends first second)
    (h' : SessionExtends second third) : SessionExtends first third :=
  ⟨h.1.trans h'.1, h.2.trans h'.2⟩

theorem lasts_reading {α : Type} {step : Step Store α} (lasts : Lasts Store.Retains step) :
    Lasts SessionExtends (Session.reading step) :=
  lasts.onPart (fun _ _ h => h.1) (fun session _ h => ⟨h, .refl session.registry⟩)
    (fun _ _ => rfl) fun _ => rfl

theorem lasts_registering {α : Type} {step : Step Registry α} (lasts : Lasts Extends step) :
    Lasts SessionExtends (Session.registering step) :=
  lasts.onPart (fun _ _ h => h.2) (fun session _ h => ⟨.refl session.store, h⟩)
    (fun _ _ => rfl) fun _ => rfl

theorem lasts_seedExtension (extension : Assets.ExtensionDocument) :
    Lasts SessionExtends (seedExtension assets extension) := by
  refine .bind (fun _ _ _ => .trans) (lasts_reading ?_) fun document => lasts_registering ?_
  · exact .bind (fun _ _ _ => .trans) (Store.lasts_loadExtension assets _ _) fun _ =>
      .require .refl _ _
  · exact .bind (fun _ _ _ => .trans) (lasts_registerVersioned rfl) fun _ => lasts_addScan _ _

theorem lasts_seedAll : Lasts SessionExtends (seedAll assets) := by
  refine .bind (fun _ _ _ => .trans) (lasts_registering ?_) fun _ => ?_
  · exact Lasts.each .refl (fun _ _ _ => .trans) (fun _ => lasts_seed _ _) _
  · exact Lasts.each .refl (fun _ _ _ => .trans) lasts_seedExtension _

theorem invariant_extends (assets : Assets) (old : Session) :
    Invariant assets old.store.Retains old.registry.Extends where
  load := Store.keeps_retains_load old.store
  loadExtension := Store.keeps_retains_loadExtension old.store
  dependencies registry owner uris before :=
    before.trans ((accumulates_extends assets).addDependencies owner uris registry)
  seed registry _ _ before := before.trans (extends_register registry _)
  extension registry _ _ _ _ _ _ before _ := before.trans (extends_register registry _)
  settle registry _ _ entry document _ _ before _ _ _ :=
    (before.trans ((accumulates_extends assets).addDependencies _ _ registry)).trans
      (extends_settle _ entry document)

/-- Completing a registry that is completed already succeeds and changes nothing: no entry, no
    dependency, and no document that was read. -/
theorem finalize_idempotent {session final : Session}
    (h : finalize assets session = .ok () final) : finalize assets final = .ok () final := by
  have hpending := pending_of_finalize h
  rw [finalize_eq_finalizeWithin] at h ⊢
  obtain ⟨_, seeded, hseeds, hclose⟩ := Step.bind_eq_ok.1 h
  obtain ⟨_, again⟩ := lasts_seedAll session () seeded hseeds
  -- the closure takes nothing away from what the seeds have registered
  have hextends : SessionExtends seeded final :=
    ((invariant_extends assets seeded).keeps_close _).of_ok hclose (SessionExtends.refl seeded)
  exact Step.bind_eq_ok.2 ⟨(), final, again final hextends, close_of_pending_eq_nil hpending _⟩

/-- An extension document that mentions a schema of which there is no version. -/
def extensionOfUnversioned : Assets where
  files :=
    let bundle := Store.bundleFiles [("A.json", "\x7b\x7d")]
    let dir : Place := ["assets", "oem", "json-schema"]
    { bundle with
      entries := bundle.entries ++
        [(dir.take 2, .directory), (dir, .directory),
          (dir ++ ["Ext.v1_0_0.json"], .file
            "\x7b\"definitions\":\x7b\"Ext\":\x7b\"$ref\":\"A.json\"\x7d\x7d\x7d".toUTF8)] }
  config := { registry := { baseline := [], fileMap := [] } }

/-- The schema that the extension depends on has no version after the first time, and is asked for
    again the second time. -/
theorem finalize_idempotent_extensionOfUnversioned :
    let assets := extensionOfUnversioned
    ∃ final, finalize assets .start = .ok () final ∧
      final.registry.entries.map Prod.fst = ["A", "Ext"] ∧
      final.registry.isVersioned "A" = false ∧ final.registry.edges = [("Ext", "A")] ∧
      finalize assets final = .ok () final := by
  intro assets
  obtain ⟨⟨⟩, final, hfinal, hids, hunversioned, hedges⟩ : ∃ value final,
      finalize assets .start = .ok value final ∧
        final.registry.entries.map Prod.fst = ["A", "Ext"] ∧
        final.registry.isVersioned "A" = false ∧ final.registry.edges = [("Ext", "A")] := by
    decide +kernel
  exact ⟨final, hfinal, hids, hunversioned, hedges, finalize_idempotent hfinal⟩

end Registry

end ResourceModel

import Mathlib.Data.List.Nodup
import ResourceModel.Proofs.Registry.Coverage
import ResourceModel.Proofs.Registry.Nesting
import ResourceModel.Proofs.Resolution
import ResourceModel.Proofs.Resolution.Outcome

set_option autoImplicit false

/-! # What a chase records of its walks

A walk is recorded when it leads into a document, before it is known where it ends in there and
whether the chase goes on. So a chase that succeeds, also one that answers nothing, has registered
what the documents of all its walks mention and nothing else, and the schema of a document depends on
what the document mentions. A walk that stays in its document is one into the document of the last
stem that was named. -/

namespace ResourceModel.Resolution

variable {assets : Assets} {store : Store} {recursive : Bool}

/-! ## The walks of a chase -/

/-- Whether a chase that has taken the given hops, and is allowed so many more, makes a walk from a
    spot after others: they lead to where the walk opens, the chase goes along the references of all
    of them, and no hop is taken twice. -/
structure Follows (assets : Assets) (store : Store) (recursive : Bool) (hops : Nat)
    (taken : List Hop) (spot : Spot) (before : List Walk) (walk : Walk) : Prop where
  leads : ∃ last, Route assets store spot before last ∧ Opens assets store last walk
  goes : ∀ first ∈ (before ++ [walk]).head?, Goes recursive taken first.reference
  direct : ∀ later ∈ (before ++ [walk]).tail,
    recursive = true ∧ later.reference.isIdRef = false
  fresh : ((before ++ [walk]).map Walk.hop ++ taken).Nodup
  short : before.length < hops

namespace Follows

variable {hops : Nat} {taken : List Hop} {spot : Spot} {before : List Walk} {first walk : Walk}
  {fragment : Json}

/-- The first walk of all is one that a turn makes. -/
theorem exists_first (h : Follows assets store recursive hops taken spot before walk) :
    ∃ first, (before ++ [walk]).head? = some first ∧ Opens assets store spot first ∧
      Goes recursive taken first.reference ∧ first.hop ∉ taken := by
  obtain ⟨last, route, opens⟩ := h.leads
  have hfresh := h.fresh
  cases route with
  | here =>
    rw [List.nil_append, List.map_singleton, List.singleton_append, List.nodup_cons] at hfresh
    exact ⟨walk, rfl, opens, h.goes walk rfl, hfresh.1⟩
  | onward opens' _ _ =>
    rw [List.cons_append, List.map_cons, List.cons_append, List.nodup_cons, List.mem_append,
      not_or] at hfresh
    exact ⟨_, rfl, opens', h.goes _ rfl, hfresh.1.2⟩

/-- The first walk of all is the one that a turn makes. -/
theorem nil_iff (opens : Opens assets store spot first)
    (goes : Goes recursive taken first.reference) (fresh : first.hop ∉ taken)
    (nodup : taken.Nodup) :
    walk = first ↔ Follows assets store recursive (hops + 1) taken spot [] walk := by
  constructor
  · rintro rfl
    exact ⟨⟨spot, .here spot, opens⟩, by simpa using goes, by simp, by simpa using ⟨fresh, nodup⟩,
      Nat.succ_pos hops⟩
  · intro h
    obtain ⟨last, route, opens'⟩ := h.leads
    cases route
    exact opens'.unique opens

/-- After a walk that a turn makes, the further ones are those from the fragment that it locates. -/
theorem cons_iff (opens : Opens assets store spot first)
    (goes : Goes recursive taken first.reference) (located : first.located? = some fragment) :
    Follows assets store recursive (hops + 1) taken spot (first :: before) walk ↔
      Follows assets store recursive hops (first.hop :: taken) (first.spot fragment) before walk := by
  have hfresh : ((first :: before ++ [walk]).map Walk.hop ++ taken).Nodup ↔
      ((before ++ [walk]).map Walk.hop ++ first.hop :: taken).Nodup := by
    rw [List.cons_append, List.map_cons, List.cons_append]
    exact List.nodup_middle.symm
  constructor
  · intro h
    obtain ⟨last, route, hwalk⟩ := h.leads
    cases route with
    | onward _ located' further =>
      obtain rfl := Option.some.inj (located.symm.trans located')
      have hdirect : ∀ later ∈ before ++ [walk],
          recursive = true ∧ later.reference.isIdRef = false := h.direct
      exact ⟨⟨last, further, hwalk⟩, fun next hnext => Or.inr (hdirect next
        (List.mem_of_mem_head? hnext)), fun later hlater => hdirect later
        (List.mem_of_mem_tail hlater), hfresh.1 h.fresh, Nat.lt_of_succ_lt_succ h.short⟩
  · intro h
    obtain ⟨last, route, hwalk⟩ := h.leads
    refine ⟨⟨last, .onward opens located route, hwalk⟩, by simpa using goes, fun later hlater => ?_,
      hfresh.2 h.fresh, Nat.succ_lt_succ h.short⟩
    -- the walk that comes next is the first one after a hop that is taken
    have hlater : later ∈ before ++ [walk] := hlater
    cases hall : before ++ [walk] with
    | nil => simp [hall] at hlater
    | cons next rest =>
      rw [hall] at hlater
      rcases List.mem_cons.1 hlater with rfl | hrest
      · exact (h.goes later (by rw [hall]; rfl)).resolve_left (by simp)
      · exact h.direct later (by rw [hall]; exact hrest)

end Follows

/-- The walks of a chase that succeeds are those that it makes, one after the other. -/
theorem isPrefix_walks_iff {hops : Nat} {taken : List Hop} {spot : Spot} {session final : Session}
    {found : Option Json} (agrees : store.Agrees assets session.store) (nodup : taken.Nodup)
    (h : followFragments assets recursive hops taken spot session = .ok found final)
    {before : List Walk} {walk : Walk} :
    before ++ [walk] <+: walks assets recursive hops taken spot session ↔
      Follows assets store recursive hops taken spot before walk := by
  induction hops generalizing taken spot session before with
  | zero => exact ⟨fun h => by simp [walks] at h, fun h => absurd h.short (Nat.not_lt_zero _)⟩
  | succ hops ih =>
    rcases followFragments_succ_eq_ok.1 h with hturn | ⟨made, hturn, hlocated, -⟩ |
      ⟨made, fragment, middle, hturn, hlocated, hrest⟩
    · rw [walks_of_ended hturn]
      refine ⟨fun h => by simp at h, fun h => ?_⟩
      obtain ⟨first, _, opens, goes, fresh⟩ := h.exists_first
      cases turn_of_opens agrees opens goes fresh hturn
    · obtain ⟨opens, goes, fresh⟩ := (turns_of_turn agrees hturn).1.opens_of_walked
      rw [walks_of_astray hturn hlocated]
      cases before with
      | nil =>
        rw [List.nil_append, List.singleton_prefix_cons_iff]
        exact Follows.nil_iff opens goes fresh nodup
      | cons first before =>
        refine ⟨fun h => by simp at h, fun h => ?_⟩
        obtain ⟨last, route, _⟩ := h.leads
        cases route with
        | onward opens' located' _ =>
          obtain rfl := opens'.unique opens
          simp [hlocated] at located'
    · obtain ⟨turns, agrees'⟩ := turns_of_turn agrees hturn
      obtain ⟨opens, goes, fresh⟩ := turns.opens_of_walked
      rw [walks_of_onward hturn hlocated]
      cases before with
      | nil =>
        rw [List.nil_append, List.singleton_prefix_cons_iff]
        exact Follows.nil_iff opens goes fresh nodup
      | cons first before =>
        have hnodup : (made.hop :: taken).Nodup := List.nodup_cons.2 ⟨fresh, nodup⟩
        rw [List.cons_append, List.cons_prefix_cons, ih agrees' hnodup hrest]
        constructor
        · rintro ⟨rfl, further⟩
          exact (Follows.cons_iff opens goes hlocated).2 further
        · intro h
          obtain ⟨_, hfirst, opens', _, _⟩ := h.exists_first
          cases hfirst
          obtain rfl := opens'.unique opens
          exact ⟨rfl, (Follows.cons_iff opens goes hlocated).1 h⟩

/-- A walk of a chase that succeeds is one that it makes after others. -/
theorem mem_walks_iff {hops : Nat} {spot : Spot} {session final : Session} {found : Option Json}
    (h : followFragments assets recursive hops [] spot session = .ok found final) {walk : Walk} :
    walk ∈ walks assets recursive hops [] spot session ↔
      ∃ before, Follows assets session.store recursive hops [] spot before walk := by
  have leading : ∀ before, before ++ [walk] <+: walks assets recursive hops [] spot session ↔
      Follows assets session.store recursive hops [] spot before walk :=
    fun _ => isPrefix_walks_iff (.refl assets session.store) List.nodup_nil h
  constructor
  · intro hmem
    obtain ⟨before, rest, heq⟩ := List.append_of_mem hmem
    refine ⟨before, (leading before).1 ⟨rest, ?_⟩⟩
    rw [heq, List.append_assoc, List.singleton_append]
  · rintro ⟨before, follows⟩
    exact ((leading before).2 follows).subset (by simp)

/-! ## Whose documents walks lead into -/

/-- The stem that was named last along walks, if one was named. -/
def lastStem? (walks : List Walk) : Option String :=
  (walks.filterMap fun walk => walk.reference.stem?).getLast?

/-- The schema of the document that walks come to: the one of the stem that was named last. -/
def schemaOf? (walks : List Walk) : Option String :=
  (lastStem? walks).map stemId

theorem lastStem?_append (walks further : List Walk) :
    lastStem? (walks ++ further) = (lastStem? further).or (lastStem? walks) := by
  unfold lastStem?
  rw [List.filterMap_append, List.getLast?_append]

theorem lastStem?_singleton (walk : Walk) : lastStem? [walk] = walk.reference.stem? := by
  unfold lastStem?
  cases h : walk.reference.stem? <;> simp [h]

/-- A spot remembers the stem that was named last on the way to it. -/
theorem Route.stem_eq {first last : Spot} {walks : List Walk}
    (route : Route assets store first walks last) : last.stem = (lastStem? walks).or first.stem := by
  induction route with
  | here => rfl
  | @onward spot _ walk _ rest opens _ _ ih =>
    rw [← List.singleton_append, lastStem?_append, lastStem?_singleton, Option.or_assoc]
    exact ih.trans (congrArg (fun stem => (lastStem? rest).or (walk.reference.stem?.or stem))
      opens.stem)

/-- What a document mentions is recorded for the schema of the document. -/
theorem Follows.ownerOf?_eq {hops : Nat} {taken : List Hop} {spot : Spot} {before : List Walk}
    {walk : Walk} (h : Follows assets store recursive hops taken spot before walk)
    (unnamed : spot.stem = none) :
    ownerOf? walk.reference walk.stem = schemaOf? (before ++ [walk]) := by
  obtain ⟨last, route, opens⟩ := h.leads
  have hstem := route.stem_eq
  rw [unnamed, Option.or_none] at hstem
  rw [schemaOf?, lastStem?_append, lastStem?_singleton, ownerOf?, Reference.schemaId?, opens.stem,
    hstem]
  cases walk.reference.stem? <;> rfl

/-! ## What is recorded -/

/-- A document that is scanned to its end mentions the ids of the references that were found. -/
theorem mentionsId_iff {levels : Nat} {document : Json} {id : String}
    (complete : (Scan.ofDocument levels document).complete) :
    document.MentionsId id ↔
      ∃ uri ∈ (Scan.ofDocument levels document).references,
        ∃ mentioned, Mention.ofUri? uri = some mentioned ∧ mentioned.id = id := by
  constructor
  · rintro ⟨mentioned, hmentions, hid⟩
    obtain ⟨uri, huri, hmentioned⟩ :=
      List.mem_filterMap.1 ((Scan.mem_mentions_ofDocument complete).2 hmentions)
    exact ⟨uri, huri, mentioned, hmentioned, hid⟩
  · rintro ⟨uri, huri, mentioned, hmentioned, hid⟩
    exact ⟨mentioned, Scan.mentions_of_mem_mentions (List.mem_filterMap.2 ⟨uri, huri, hmentioned⟩),
      hid⟩

/-- The edges that a walk asks for. -/
def edgesOf (assets : Assets) (walk : Walk) : List (String × String) :=
  (Scan.ofDocument assets.config.limits.nestingDepth walk.document).references.filterMap
    (Registry.edgeOf? (ownerOf? walk.reference walk.stem))

theorem mem_edgesOf_iff {walk : Walk} {source target : String}
    (complete : (Scan.ofDocument assets.config.limits.nestingDepth walk.document).complete) :
    (source, target) ∈ edgesOf assets walk ↔
      ownerOf? walk.reference walk.stem = some source ∧ source ≠ target ∧
        walk.document.MentionsId target := by
  unfold edgesOf
  rw [List.mem_filterMap, mentionsId_iff complete]
  simp only [Registry.edgeOf?_eq_some_iff]
  constructor
  · rintro ⟨uri, huri, howner, hne, hmentions⟩
    exact ⟨howner, hne, uri, huri, hmentions⟩
  · rintro ⟨howner, hne, uri, huri, hmentions⟩
    exact ⟨uri, huri, howner, hne, hmentions⟩

theorem edges_of_walked {taken : List Hop} {spot : Spot} {session final : Session} {walk : Walk}
    (h : turn assets recursive taken spot session = .ok (.walked walk) final) :
    final.registry.edges = (edgesOf assets walk).foldl Registry.withEdge session.registry.edges := by
  rw [(registry_of_walked h).2]
  exact Registry.edges_addDependencies assets _ _ _

/-- The documents of the walks of a chase are scanned to their ends, and the graph has gained the
    edges that the walks ask for, one after the other. -/
theorem edges_followFragments {hops : Nat} {taken : List Hop} {spot : Spot}
    {session final : Session} {found : Option Json}
    (h : followFragments assets recursive hops taken spot session = .ok found final) :
    (∀ walk ∈ walks assets recursive hops taken spot session,
      (Scan.ofDocument assets.config.limits.nestingDepth walk.document).complete) ∧
    final.registry.edges =
      ((walks assets recursive hops taken spot session).flatMap (edgesOf assets)).foldl
        Registry.withEdge session.registry.edges := by
  induction hops generalizing taken spot session with
  | zero =>
    cases h
    exact ⟨fun _ hwalk => by simp [walks] at hwalk, rfl⟩
  | succ hops ih =>
    rcases followFragments_succ_eq_ok.1 h with hturn | ⟨walk, hturn, hlocated, rfl⟩ |
      ⟨walk, fragment, middle, hturn, hlocated, hrest⟩
    · rw [walks_of_ended hturn, registry_of_ended hturn]
      exact ⟨fun _ hwalk => by simp at hwalk, rfl⟩
    · rw [walks_of_astray hturn hlocated, List.flatMap_singleton]
      exact ⟨by simpa using (registry_of_walked hturn).1, edges_of_walked hturn⟩
    · obtain ⟨hall, hmore⟩ := ih hrest
      rw [walks_of_onward hturn hlocated, List.flatMap_cons, List.foldl_append,
        ← edges_of_walked hturn]
      exact ⟨List.forall_mem_cons.2 ⟨(registry_of_walked hturn).1, hall⟩, hmore⟩

/-- Whether the chase for what a fragment refers to makes a walk after others. -/
def Makes (assets : Assets) (store : Store) (recursive : Bool) (fragment : Json)
    (enclosing : Option Json) (before : List Walk) (walk : Walk) : Prop :=
  ∃ document, enclosing = some document ∧
    Follows assets store recursive assets.config.limits.referenceHops [] ⟨fragment, document, none⟩
      before walk

section Resolve

variable {fragment : Json} {enclosing : Option Json} {session final : Session}
  {answer : Option Json}

theorem isSome_resolve_iff
    (h : resolve assets fragment enclosing recursive session = .ok answer final) (id : String) :
    (final.registry.get? id).isSome ↔ (session.registry.get? id).isSome ∨
      ∃ before walk, Makes assets session.store recursive fragment enclosing before walk ∧
        walk.document.MentionsId id := by
  cases enclosing with
  | none =>
    cases h
    simp [Makes]
  | some document =>
    have hcomplete := (edges_followFragments h).1
    rw [Registry.get?_of_entries (entries_followFragments h), Registry.get?_registerMentions_isSome]
    refine or_congr Iff.rfl ?_
    constructor
    · rintro ⟨mentioned, hmem, hid⟩
      obtain ⟨walk, hwalk, hmentioned⟩ := List.mem_flatMap.1 hmem
      obtain ⟨before, follows⟩ := (mem_walks_iff h).1 hwalk
      exact ⟨before, walk, ⟨document, rfl, follows⟩, mentioned,
        Scan.mentions_of_mem_mentions hmentioned, hid⟩
    · rintro ⟨before, walk, ⟨_, ⟨⟩, follows⟩, mentioned, hmentions, hid⟩
      have hwalk := (mem_walks_iff h).2 ⟨before, follows⟩
      refine ⟨mentioned, List.mem_flatMap.2 ⟨walk, hwalk, ?_⟩, hid⟩
      exact (Scan.mem_mentions_ofDocument (hcomplete walk hwalk)).2 hmentions

theorem mem_edges_resolve_iff
    (h : resolve assets fragment enclosing recursive session = .ok answer final)
    (source target : String) :
    (source, target) ∈ final.registry.edges ↔ (source, target) ∈ session.registry.edges ∨
      ∃ before walk, Makes assets session.store recursive fragment enclosing before walk ∧
        schemaOf? (before ++ [walk]) = some source ∧ source ≠ target ∧
        walk.document.MentionsId target := by
  cases enclosing with
  | none =>
    cases h
    simp [Makes]
  | some document =>
    obtain ⟨hcomplete, hedges⟩ := edges_followFragments h
    rw [hedges, Registry.mem_foldl_withEdge]
    refine or_congr Iff.rfl ?_
    constructor
    · intro hmem
      obtain ⟨walk, hwalk, hedge⟩ := List.mem_flatMap.1 hmem
      obtain ⟨before, follows⟩ := (mem_walks_iff h).1 hwalk
      rw [mem_edgesOf_iff (hcomplete walk hwalk), follows.ownerOf?_eq rfl] at hedge
      exact ⟨before, walk, ⟨document, rfl, follows⟩, hedge⟩
    · rintro ⟨before, walk, ⟨_, ⟨⟩, follows⟩, hedge⟩
      have hwalk := (mem_walks_iff h).2 ⟨before, follows⟩
      refine List.mem_flatMap.2 ⟨walk, hwalk, ?_⟩
      rw [mem_edgesOf_iff (hcomplete walk hwalk), follows.ownerOf?_eq rfl]
      exact hedge

/-- A chase for a fragment that succeeds, be there an answer or not, has registered exactly the ids
    that the documents of its walks mention, beside those that were registered before. It has added
    exactly the edges to these ids from the schemas of the documents, other than themselves, as far as
    these schemas are known by the stems that were named. A chase for a document registers nothing
    and adds no edges, whether it succeeds or fails. -/
theorem records_of_resolve
    (h : resolve assets fragment enclosing recursive session = .ok answer final) :
    (∀ id, (final.registry.get? id).isSome ↔ (session.registry.get? id).isSome ∨
      ∃ before walk, Makes assets session.store recursive fragment enclosing before walk ∧
        walk.document.MentionsId id) ∧
    (∀ source target, (source, target) ∈ final.registry.edges ↔
      (source, target) ∈ session.registry.edges ∨
        ∃ before walk, Makes assets session.store recursive fragment enclosing before walk ∧
          schemaOf? (before ++ [walk]) = some source ∧ source ≠ target ∧
          walk.document.MentionsId target) ∧
    ∀ fallback (other : Session),
      ((Session.reading (documentOf assets fragment enclosing fallback)).after other).registry =
        other.registry := by
  refine ⟨isSome_resolve_iff h, mem_edges_resolve_iff h, fun fallback other => ?_⟩
  rw [Session.reading, Step.after_onPart]

end Resolve

/-- A bound document in which a chase takes a local reference, and is cut at the next one since the
    fragment there is missing. -/
def cutOff : Store where
  documents := []
  extensions := []
  bound :=
    [("A.v1", .object [("definitions", .object
      [("X", .object [("$ref", .string "#/definitions/Y")]),
        ("Y", .object [("$ref", .string "#/definitions/Z")]),
        ("W", .object [("$ref", .string "B.json")])])])]

/-- The chase is cut, but what the document mentions is recorded for its schema, which the local
    references do not name. -/
theorem records_of_cutOff :
    let start : Json := .object [("$ref", .string "A.v1.json#/definitions/X")]
    ∃ final, resolve ⟨⟨[], []⟩, {}⟩ start (some .null) true ⟨cutOff, .empty⟩ = .ok none final ∧
      (final.registry.get? "B").isSome ∧ ("A", "B") ∈ final.registry.edges ∧
      ∃ before walk, Makes ⟨⟨[], []⟩, {}⟩ cutOff true start (some .null) before walk ∧
        schemaOf? (before ++ [walk]) = some "A" ∧ walk.document.MentionsId "B" := by
  intro start
  obtain ⟨answer, final, h, hnone, hentry, hedge⟩ : ∃ answer final,
      resolve ⟨⟨[], []⟩, {}⟩ start (some .null) true ⟨cutOff, .empty⟩ = .ok answer final ∧
        answer.isNone ∧ (final.registry.get? "B").isSome ∧
        ("A", "B") ∈ final.registry.edges := by decide +kernel
  obtain rfl := Option.isNone_iff_eq_none.1 hnone
  obtain ⟨-, edges, -⟩ := records_of_resolve h
  rcases (edges "A" "B").1 hedge with hbefore | ⟨before, walk, makes, hschema, -, hmentions⟩
  · simp [Registry.empty] at hbefore
  · exact ⟨final, h, hentry, hedge, before, walk, makes, hschema, hmentions⟩

end ResourceModel.Resolution

import ResourceModel.Proofs.Registry.Invariant

set_option autoImplicit false

/-! # What the closure covers

Which ids have an entry once a registry is completed is known from the documents that are scanned on
the way: those of the extension area, and those that are read to resolve pending entries. An entry
that is resolved already is not scanned again, so what its document mentions is covered only if it is
found elsewhere. -/

namespace ResourceModel

/-- Whether a document mentions a schema of an id. -/
def Json.MentionsId (document : Json) (id : String) : Prop :=
  ∃ mentioned, document.Mentions mentioned ∧ mentioned.id = id

namespace Registry

/-! ## The documents that are scanned -/

/-- The extension document that a seed loads. -/
def extensionDocument? (assets : Assets) (call : Assets.ExtensionDocument × Session) :
    Option Json :=
  match Store.loadExtension assets call.1.id call.1.version.tag call.2.store with
  | .ok found _ => found
  | .error _ _ => none

/-- The document that is read to resolve an entry. -/
def resolvedDocument? (assets : Assets) (call : String × Session) : Option Json :=
  match call.2.registry.get? call.1 with
  | none => none
  | some entry =>
    match documentOf assets entry call.2.store with
    | .ok document _ => some document
    | .error _ _ => none

/-- The ids that are resolved pass by pass, each with the session in which that begins. -/
def resolutions (assets : Assets) : Nat → Session → List (String × Session)
  | 0, _ => []
  | passes + 1, session =>
    let pending := session.registry.pending
    if pending.isEmpty then []
    else
      Step.calls (resolve assets) pending session ++
        match resolveAll assets pending session with
        | .ok _ next => resolutions assets passes next
        | .error _ _ => []

/-- The documents that are scanned while a registry is completed, in their order. -/
def scanned (assets : Assets) (session : Session) : List Json :=
  match Session.registering (seedBaseline assets assets.config.registry.baseline) session with
  | .error _ _ => []
  | .ok _ seeded =>
    (Step.calls (seedExtension assets) assets.extensionDocuments seeded).filterMap
        (extensionDocument? assets) ++
      match seedExtensions assets assets.extensionDocuments seeded with
      | .error _ _ => []
      | .ok _ extended =>
        (resolutions assets assets.config.limits.closurePasses extended).filterMap
          (resolvedDocument? assets)

/-! ## What a completion goes through -/

/-- Completing a registry seeds what is always emitted, then the extension documents, and closes. -/
theorem finalize_eq_ok {assets : Assets} {session final : Session}
    (h : finalize assets session = .ok () final) :
    ∃ registry extended,
      seedBaseline assets assets.config.registry.baseline session.registry = .ok () registry ∧
      seedExtensions assets assets.extensionDocuments { session with registry } =
        .ok () extended ∧
      close assets assets.config.limits.closurePasses extended = .ok () final := by
  obtain ⟨⟨⟩, _, hbaseline, hrest⟩ := Step.bind_eq_ok.1 h
  obtain ⟨⟨⟩, extended, hextensions, hclose⟩ := Step.bind_eq_ok.1 hrest
  obtain ⟨registry, hseed, rfl⟩ := Session.registering_eq_ok.1 hbaseline
  exact ⟨registry, extended, hseed, hextensions, hclose⟩

/-- Seeding an extension document loads it, registers it, and then what it mentions. -/
theorem seedExtension_eq_ok {assets : Assets} {extension : Assets.ExtensionDocument}
    {session final : Session} (h : seedExtension assets extension session = .ok () final) :
    ∃ document store registry,
      Store.loadExtension assets extension.id extension.version.tag session.store =
        .ok (some document) store ∧
      addScan assets (some extension.id)
        (Scan.ofDocument assets.config.limits.nestingDepth document)
        (session.registry.register
          (.ofExtension extension.id extension.version (some document))) = .ok () registry ∧
      final = ⟨store, registry⟩ := by
  obtain ⟨document, _, hreading, hregister⟩ := Step.bind_eq_ok.1 h
  obtain ⟨store, hread, rfl⟩ := Session.reading_eq_ok.1 hreading
  obtain ⟨found, _, hload, hfound⟩ := Step.bind_eq_ok.1 hread
  obtain ⟨rfl, rfl⟩ := Step.require_eq_ok.1 hfound
  obtain ⟨registry, hscan, rfl⟩ := Session.registering_eq_ok.1 hregister
  obtain ⟨_, middle, hmodify, hadd⟩ := Step.bind_eq_ok.1 hscan
  cases hmodify
  exact ⟨document, store, registry, hload, hadd, rfl⟩

/-! ## The passes of the closure -/

section Passes

variable {assets : Assets} {session : Session}

/-- Nothing is left to resolve, so the closure does nothing. -/
theorem close_of_pending_eq_nil (h : session.registry.pending = []) (passes : Nat) :
    close assets passes session = .ok () session := by
  cases passes <;> simp [close, Step.bind_apply, h]

/-- Where no pass is left, the closure asks whether anything is pending. -/
theorem close_zero (assets : Assets) (session : Session) :
    close assets 0 session =
      if session.registry.pending = [] then .ok () session
      else .error (.notConverged assets.config.limits.closurePasses session.registry.pending)
        session := by
  by_cases h : session.registry.pending = [] <;> simp [close, Step.bind_apply, h]

/-- A pass resolves what is pending when it begins. -/
theorem close_succ (h : session.registry.pending ≠ []) (passes : Nat) :
    close assets (passes + 1) session =
      (resolveAll assets session.registry.pending >>= fun _ => close assets passes) session := by
  simp [close, Step.bind_apply, h]

theorem resolutions_of_pending_eq_nil (h : session.registry.pending = []) (passes : Nat) :
    resolutions assets passes session = [] := by
  cases passes with
  | zero => rfl
  | succ passes => simp [resolutions, h]

theorem resolutions_of_ok {next : Session} (h : session.registry.pending ≠ [])
    (hpass : resolveAll assets session.registry.pending session = .ok () next) (passes : Nat) :
    resolutions assets (passes + 1) session =
      Step.calls (resolve assets) session.registry.pending session ++
        resolutions assets passes next := by
  simp [resolutions, h, hpass]

theorem resolutions_of_error {failed : Session} {error : Error}
    (h : session.registry.pending ≠ [])
    (hpass : resolveAll assets session.registry.pending session = .error error failed)
    (passes : Nat) :
    resolutions assets (passes + 1) session =
      Step.calls (resolve assets) session.registry.pending session := by
  simp [resolutions, h, hpass]

end Passes

/-! ## Entries that are pending -/

/-- The closure succeeds when nothing is pending any more. -/
theorem pending_of_close {assets : Assets} {passes : Nat} {session final : Session}
    (h : close assets passes session = .ok () final) : final.registry.pending = [] := by
  induction passes generalizing session with
  | zero =>
    rw [close_zero] at h
    split at h
    · next hpending =>
      cases h
      exact hpending
    · cases h
  | succ passes ih =>
    by_cases hpending : session.registry.pending = []
    · rw [close_of_pending_eq_nil hpending] at h
      cases h
      exact hpending
    · rw [close_succ hpending] at h
      obtain ⟨_, next, -, hclose⟩ := Step.bind_eq_ok.1 h
      exact ih hclose

/-- Without pending entries every entry is resolved. -/
theorem resolved_of_pending {registry : Registry} (h : registry.pending = []) :
    ∀ row ∈ registry.entries, row.2.resolved = true := by
  intro row hrow
  have hfilter := List.map_eq_nil_iff.1 h
  have hresolved := List.filter_eq_nil_iff.1 hfilter row hrow
  simpa using hresolved

theorem pending_of_finalize {assets : Assets} {session final : Session}
    (h : finalize assets session = .ok () final) : final.registry.pending = [] := by
  obtain ⟨_, _, _, _, hclose⟩ := finalize_eq_ok h
  exact pending_of_close hclose

/-- Whether there is a resolved entry of an id. -/
def HasResolved (registry : Registry) (id : String) : Prop :=
  ∃ entry, registry.get? id = some entry ∧ entry.resolved = true

theorem hasResolved_iff_of_pending {registry : Registry} (h : registry.pending = []) {id : String} :
    registry.HasResolved id ↔ (registry.get? id).isSome := by
  constructor
  · rintro ⟨entry, hentry, _⟩
    exact Option.isSome_of_eq_some hentry
  · intro hsome
    obtain ⟨entry, hentry⟩ := Option.isSome_iff_exists.1 hsome
    exact ⟨entry, hentry, resolved_of_pending h _ (Table.mem_of_get? hentry)⟩

/-! ## Ids that get an entry -/

section Ids

variable {assets : Assets} {id : String}

/-- Scanning a document gives entries to the ids that it mentions. -/
theorem isSome_addScan_iff {owner : Option String} {document : Json} {levels : Nat}
    {registry final : Registry} {value : Unit}
    (h : addScan assets owner (Scan.ofDocument levels document) registry = .ok value final) :
    (final.get? id).isSome ↔ (registry.get? id).isSome ∨ document.MentionsId id := by
  obtain ⟨complete, rfl⟩ := addScan_eq_ok.1 h
  rw [get?_addDependencies_isSome]
  refine or_congr Iff.rfl ?_
  constructor
  · rintro ⟨mentioned, hmem, hid⟩
    exact ⟨mentioned, Scan.mentions_of_mem_mentions hmem, hid⟩
  · rintro ⟨mentioned, hmentions, hid⟩
    exact ⟨mentioned, (Scan.mem_mentions_ofDocument complete).2 hmentions, hid⟩

theorem isSome_seed_iff {row : String × String} {registry final : Registry}
    (h : seed assets row.1 row.2 registry = .ok () final) :
    (final.get? id).isSome ↔ (registry.get? id).isSome ∨ row.1 = id := by
  obtain ⟨standard, _, hstandard, hmodify⟩ := Step.bind_eq_ok.1 h
  obtain ⟨_, rfl⟩ := Step.ofExcept_eq_ok.1 hstandard
  cases hmodify
  simp only
  split
  · next hsome =>
    constructor
    · exact Or.inl
    · rintro (hold | rfl)
      · exact hold
      · exact hsome
  · exact get?_register_isSome _ _ _

/-- Seeding an extension document gives entries to its own id and to those that it mentions. -/
theorem isSome_seedExtension_iff {extension : Assets.ExtensionDocument} {session final : Session}
    (h : seedExtension assets extension session = .ok () final) :
    (final.registry.get? id).isSome ↔ (session.registry.get? id).isSome ∨
      (extension.id = id ∨ ∃ document, extensionDocument? assets (extension, session) =
        some document ∧ document.MentionsId id) := by
  obtain ⟨document, store, registry, hload, hadd, rfl⟩ := seedExtension_eq_ok h
  have hdocument : extensionDocument? assets (extension, session) = some document := by
    unfold extensionDocument?
    rw [hload]
  rw [isSome_addScan_iff hadd, get?_register_isSome, hdocument, or_assoc]
  simp only [Entry.ofExtension, Option.some.injEq, exists_eq_left']

/-- Resolving an entry reads its document, registers what this mentions, and settles the entry. -/
theorem resolve_eq_ok {id : String} {session final : Session} {entry : Entry}
    (hentry : session.registry.get? id = some entry)
    (h : resolve assets id session = .ok () final) :
    ∃ document store registry, documentOf assets entry session.store = .ok document store ∧
      addScan assets (some id) (Scan.ofDocument assets.config.limits.nestingDepth document)
        session.registry = .ok () registry ∧
      final = ⟨store, registry.settle entry document⟩ := by
  obtain ⟨_, _, hget, hrest⟩ := Step.bind_eq_ok.1 h
  cases hget
  rw [hentry] at hrest
  obtain ⟨document, _, hreading, hregister⟩ := Step.bind_eq_ok.1 hrest
  obtain ⟨store, hread, rfl⟩ := Session.reading_eq_ok.1 hreading
  obtain ⟨_, hscan, rfl⟩ := Session.registering_eq_ok.1 hregister
  obtain ⟨_, registry, hadd, hsettle⟩ := Step.bind_eq_ok.1 hscan
  cases hsettle
  exact ⟨document, store, registry, hread, hadd, rfl⟩

/-- Resolving an entry gives entries to the ids that the document mentions that is read for it. -/
theorem isSome_resolve_iff {owner : String} {session final : Session}
    (h : resolve assets owner session = .ok () final) :
    (final.registry.get? id).isSome ↔ (session.registry.get? id).isSome ∨
      ∃ document, resolvedDocument? assets (owner, session) = some document ∧
        document.MentionsId id := by
  unfold resolvedDocument?
  cases hentry : session.registry.get? owner with
  | none =>
    obtain ⟨_, _, hget, hrest⟩ := Step.bind_eq_ok.1 h
    cases hget
    rw [hentry] at hrest
    cases hrest
    simp
  | some entry =>
    obtain ⟨document, store, registry, hread, hadd, rfl⟩ := resolve_eq_ok hentry h
    rw [get?_settle_isSome, isSome_addScan_iff hadd]
    simp only [hread, Option.some.injEq, exists_eq_left']

theorem isSome_close_iff {passes : Nat} {session final : Session}
    (h : close assets passes session = .ok () final) :
    (final.registry.get? id).isSome ↔ (session.registry.get? id).isSome ∨
      ∃ call ∈ resolutions assets passes session, ∃ document,
        resolvedDocument? assets call = some document ∧ document.MentionsId id := by
  induction passes generalizing session with
  | zero =>
    rw [close_zero] at h
    split at h
    · cases h
      simp [resolutions]
    · cases h
  | succ passes ih =>
    by_cases hpending : session.registry.pending = []
    · rw [close_of_pending_eq_nil hpending] at h
      cases h
      simp [resolutions_of_pending_eq_nil hpending]
    · -- this pass gives entries to what its calls read, the passes that are left do the rest
      rw [close_succ hpending] at h
      obtain ⟨_, next, hpass, hclose⟩ := Step.bind_eq_ok.1 h
      have onPass := Step.holds_each_iff
        (fun session : Session => ((session.registry.get? id).isSome : Prop))
        (fun call => ∃ document, resolvedDocument? assets call = some document ∧
          document.MentionsId id)
        (fun _ _ _ hstep => isSome_resolve_iff hstep) hpass
      rw [resolutions_of_ok hpending hpass, ih hclose, onPass, or_assoc]
      simp only [List.mem_append, or_and_right, exists_or]

/-- Why an id has an entry once a registry is completed: it had one before, it is always emitted, it
    is that of an extension document, or a document that is scanned on the way mentions it. -/
inductive Covered (assets : Assets) (session : Session) (id : String) : Prop where
  | held (h : (session.registry.get? id).isSome)
  | baseline {row : String × String} (h : row ∈ assets.config.registry.baseline) (hid : row.1 = id)
  | extension {document : Assets.ExtensionDocument} (h : document ∈ assets.extensionDocuments)
      (hid : document.id = id)
  | mentioned {document : Json} (h : document ∈ scanned assets session)
      (hmentions : document.MentionsId id)

/-- Completing a registry gives entries to exactly the ids that are covered. -/
theorem isSome_finalize_iff {session final : Session}
    (h : finalize assets session = .ok () final) :
    (final.registry.get? id).isSome ↔ Covered assets session id := by
  obtain ⟨registry, extended, hseed, hextensions, hclose⟩ := finalize_eq_ok h
  have onSeeds := Step.holds_each_iff_value
    (fun registry : Registry => ((registry.get? id).isSome : Prop)) (fun row => row.1 = id)
    (fun _ _ _ hstep => isSome_seed_iff hstep) hseed
  have onExtensions := Step.holds_each_iff
    (fun session : Session => ((session.registry.get? id).isSome : Prop))
    (fun call => call.1.id = id ∨ ∃ document, extensionDocument? assets call = some document ∧
      document.MentionsId id)
    (fun _ _ _ hstep => isSome_seedExtension_iff hstep) hextensions
  have hscanned : scanned assets session =
      (Step.calls (seedExtension assets) assets.extensionDocuments
          { session with registry }).filterMap (extensionDocument? assets) ++
        (resolutions assets assets.config.limits.closurePasses extended).filterMap
          (resolvedDocument? assets) := by
    unfold scanned
    rw [Session.registering_eq_ok.2 ⟨registry, hseed, rfl⟩]
    simp only
    rw [hextensions]
  -- read backwards: the closure, before it the extension documents, before them the baseline
  rw [isSome_close_iff hclose, onExtensions, onSeeds]
  constructor
  · rintro (((hheld | ⟨row, hrow, hid⟩) | ⟨call, hcall, hid | ⟨document, hread, hmentions⟩⟩) |
      ⟨call, hcall, document, hread, hmentions⟩)
    · exact .held hheld
    · exact .baseline hrow hid
    · have hextension := List.mem_map_of_mem (f := Prod.fst) hcall
      rw [Step.map_fst_calls hextensions] at hextension
      exact .extension hextension hid
    · refine .mentioned ?_ hmentions
      rw [hscanned]
      exact List.mem_append_left _ (List.mem_filterMap.2 ⟨call, hcall, hread⟩)
    · refine .mentioned ?_ hmentions
      rw [hscanned]
      exact List.mem_append_right _ (List.mem_filterMap.2 ⟨call, hcall, hread⟩)
  · rintro (hheld | ⟨hrow, hid⟩ | ⟨hextension, hid⟩ | ⟨hdocument, hmentions⟩)
    · exact Or.inl (Or.inl (Or.inl hheld))
    · exact Or.inl (Or.inl (Or.inr ⟨_, hrow, hid⟩))
    · rw [← Step.map_fst_calls hextensions] at hextension
      obtain ⟨call, hcall, rfl⟩ := List.mem_map.1 hextension
      exact Or.inl (Or.inr ⟨call, hcall, Or.inl hid⟩)
    · rw [hscanned, List.mem_append] at hdocument
      rcases hdocument with hdocument | hdocument
      · obtain ⟨call, hcall, hread⟩ := List.mem_filterMap.1 hdocument
        exact Or.inl (Or.inr ⟨call, hcall, Or.inr ⟨_, hread, hmentions⟩⟩)
      · obtain ⟨call, hcall, hread⟩ := List.mem_filterMap.1 hdocument
        exact Or.inr ⟨call, hcall, _, hread, hmentions⟩

/-- After a registry is completed exactly the ids that are covered have a resolved entry. -/
theorem hasResolved_finalize_iff {session final : Session}
    (h : finalize assets session = .ok () final) :
    final.registry.HasResolved id ↔ Covered assets session id := by
  rw [hasResolved_iff_of_pending (pending_of_finalize h), isSome_finalize_iff h]

end Ids

end Registry

end ResourceModel

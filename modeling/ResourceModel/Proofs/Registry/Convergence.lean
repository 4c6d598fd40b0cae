import Mathlib.Data.List.ProdSigma
import Mathlib.Data.List.Perm.Subperm
import ResourceModel.Proofs.Registry.Coverage
import ResourceModel.Proofs.Registry.History
import ResourceModel.Proofs.Store

set_option autoImplicit false

/-! # How many passes the closure takes

An entry may get a version and it may get resolved, and neither is taken back. An entry that is
resolved by a pass gets one of the two: it is marked, or a versioned entry has taken its place
meanwhile. So each id is resolved at most once while it has no version and at most once while it has
one, and as every pass resolves something, there are fewer passes than twice the ids. -/

namespace ResourceModel

/-! ## Stages of an entry -/

/-- How far an entry has come: one for its version, and one for being resolved. -/
def Entry.stage (entry : Entry) : Nat :=
  entry.version.isSome.toNat + entry.resolved.toNat

theorem Entry.Becomes.stage_le {entry next : Entry} (h : entry.Becomes next) :
    entry.stage ≤ next.stage := by
  unfold Entry.stage
  cases h with
  | kept _ _ version _ resolved =>
    rw [version]
    cases hresolved : entry.resolved with
    | false => simp
    | true => simp [resolved hresolved]
  | superseded unversioned versioned =>
    have hone := Bool.toNat_le entry.resolved
    simp only [unversioned, versioned, Option.isSome_none, Bool.toNat_false, Bool.toNat_true]
    omega

namespace Registry

/-- How far the entry of an id has come. -/
def stage (registry : Registry) (id : String) : Nat :=
  ((registry.get? id).map Entry.stage).getD 0

theorem stage_of_get? {registry : Registry} {id : String} {entry : Entry}
    (h : registry.get? id = some entry) : registry.stage id = entry.stage := by
  rw [stage, h, Option.map_some, Option.getD_some]

theorem Becomes.stage_le {old new : Registry} (h : old.Becomes new) (id : String) :
    old.stage id ≤ new.stage id := by
  cases hentry : old.get? id with
  | none => simp [stage, hentry]
  | some entry =>
    obtain ⟨next, hnext, becomes⟩ := h id entry hentry
    rw [stage_of_get? hentry, stage_of_get? hnext]
    exact becomes.stage_le

/-- Whether the entry of an id is still to be resolved. -/
def IsPending (registry : Registry) (id : String) : Prop :=
  ∃ entry, registry.get? id = some entry ∧ entry.resolved = false

/-- A pending entry has come as far as its version takes it. -/
theorem IsPending.stage_eq {registry : Registry} {id : String} (h : registry.IsPending id) :
    registry.stage id = (registry.isVersioned id).toNat := by
  obtain ⟨entry, hentry, unresolved⟩ := h
  rw [stage_of_get? hentry, Entry.stage, unresolved, isVersioned, hentry, Option.any_some,
    Bool.toNat_false, Nat.add_zero]

theorem WellFormed.isPending_of_mem {registry : Registry} (h : registry.WellFormed) {id : String}
    (hid : id ∈ registry.pending) : registry.IsPending id := by
  obtain ⟨row, hrow, rfl⟩ := List.mem_map.1 hid
  obtain ⟨hmem, unresolved⟩ := List.mem_filter.1 hrow
  exact ⟨row.2, h.sorted.get?_of_mem hmem, by simpa using unresolved⟩

theorem WellFormed.nodup_pending {registry : Registry} (h : registry.WellFormed) :
    registry.pending.Nodup :=
  h.sorted.nodup_keys.sublist (List.filter_sublist.map _)

/-! ## Resolving one entry -/

/-- Registering what is mentioned leaves a pending id pending: an entry in its place is pending
    too. -/
theorem IsPending.addDependencies {registry : Registry} {id : String} (h : registry.IsPending id)
    (assets : Assets) (owner : Option String) (uris : List String) :
    (registry.addDependencies assets owner uris).IsPending id := by
  obtain ⟨entry, hentry, unresolved⟩ := h
  obtain ⟨next, hnext, _⟩ := grows_addDependencies assets owner uris registry id entry hentry
  refine ⟨next, hnext, ?_⟩
  rcases get?_addDependencies_cases hnext with hold | ⟨mentioned, rfl⟩
  · obtain rfl := Option.some.inj (hentry.symm.trans hold)
    exact unresolved
  · exact (entryOf_unresolved assets mentioned).1

/-- Settling an entry that was pending takes its id a stage further: the entry is marked, or it has
    got a version. -/
theorem stage_lt_settle {old registry : Registry} {entry : Entry} (grows : old.Grows registry)
    (hentry : old.get? entry.id = some entry) (unresolved : entry.resolved = false)
    (document : Json) : entry.stage < (registry.settle entry document).stage entry.id := by
  obtain ⟨current, hcurrent, hstep⟩ := grows entry.id entry hentry
  rcases hstep with rfl | ⟨unversioned, versioned⟩
  · have hsame : sameVersion current.version current.version = true := by
      cases current.version <;> simp [sameVersion, Version.same]
    have hsettled : (registry.settle current document).get? current.id =
        some { current with resolved := true, document := some document } := by
      simp only [settle, hcurrent, hsame, if_true]
      exact Table.get?_put_self _ _ _
    rw [stage_of_get? hsettled, Entry.stage, Entry.stage, unresolved]
    simp
  · obtain ⟨version, hversion⟩ := Option.isSome_iff_exists.1 versioned
    have hkept : registry.settle entry document = registry := by
      simp [settle, hcurrent, hversion, unversioned, sameVersion]
    rw [hkept, stage_of_get? hcurrent, Entry.stage, Entry.stage, unresolved, unversioned, hversion]
    simp only [Option.isSome_none, Option.isSome_some, Bool.toNat_false, Bool.toNat_true]
    omega

theorem get?_settle_of_ne (registry : Registry) {entry : Entry} (document : Json) {id : String}
    (h : id ≠ entry.id) : (registry.settle entry document).get? id = registry.get? id := by
  unfold settle
  split
  · split
    · exact Table.get?_put_of_ne _ _ h
    · rfl
  · rfl

/-- What resolving an entry does for the ids: every entry becomes what it may, that of the id rises
    by a stage, and the others that were pending still are. -/
structure Advances (id : String) (old new : Registry) : Prop where
  wellFormed : new.WellFormed
  becomes : old.Becomes new
  rises : old.stage id < new.stage id
  pending : ∀ other, other ≠ id → old.IsPending other → new.IsPending other

theorem advances_of_resolve {assets : Assets} {id : String} {session final : Session}
    (wellFormed : session.registry.WellFormed) (pending : session.registry.IsPending id)
    (h : resolve assets id session = .ok () final) :
    Advances id session.registry final.registry := by
  have kept : session.registry.Becomes final.registry ∧ final.registry.WellFormed :=
    (((invariant_becomes assets session.registry).keeps_resolve id).of_ok h
      ⟨trivial, .refl session.registry, wellFormed⟩).2
  obtain ⟨entry, hentry, unresolved⟩ := pending
  obtain rfl := wellFormed.id_of_get? hentry
  obtain ⟨document, store, registry, -, hadd, rfl⟩ := resolve_eq_ok hentry h
  obtain ⟨-, rfl⟩ := addScan_eq_ok.1 hadd
  refine ⟨kept.2, kept.1, ?_, fun other hne hother => ?_⟩
  · rw [stage_of_get? hentry]
    exact stage_lt_settle (grows_addDependencies assets _ _ _) hentry unresolved document
  · obtain ⟨next, hnext, hpending⟩ := hother.addDependencies assets (some entry.id)
      (Scan.ofDocument assets.config.limits.nestingDepth document).references
    refine ⟨next, ?_, hpending⟩
    rw [get?_settle_of_ne _ _ hne]
    exact hnext

/-! ## The calls of the closure -/

/-- What is known of calls that begin in a registry: each one is for an id that is pending then, and
    once an id is resolved it has risen by a stage in all the later ones. -/
structure Ascending (registry : Registry) (calls : List (String × Session)) : Prop where
  pending : ∀ call ∈ calls, call.2.registry.IsPending call.1
  becomes : ∀ call ∈ calls, registry.Becomes call.2.registry
  rises : calls.Pairwise fun first later =>
    first.2.registry.stage first.1 < later.2.registry.stage first.1

/-- What is known of the registry that calls lead to: the ids that were resolved have risen by a
    stage. -/
structure Passed (old : Registry) (calls : List (String × Session)) (new : Registry) : Prop where
  wellFormed : new.WellFormed
  becomes : old.Becomes new
  rises : ∀ call ∈ calls, call.2.registry.stage call.1 < new.stage call.1

theorem Ascending.nil (registry : Registry) : Ascending registry [] :=
  ⟨by simp, by simp, .nil⟩

theorem Passed.nil {registry : Registry} (h : registry.WellFormed) : Passed registry [] registry :=
  ⟨h, .refl registry, by simp⟩

theorem Passed.ascending_append {old middle : Registry} {calls further : List (String × Session)}
    (h : Ascending old calls) (passed : Passed old calls middle) (h' : Ascending middle further) :
    Ascending old (calls ++ further) := by
  refine ⟨fun call hcall => ?_, fun call hcall => ?_, ?_⟩
  · exact (List.mem_append.1 hcall).elim (h.pending call) (h'.pending call)
  · exact (List.mem_append.1 hcall).elim (h.becomes call) fun hcall =>
      passed.becomes.trans (h'.becomes call hcall)
  · refine List.pairwise_append.2 ⟨h.rises, h'.rises, fun first hfirst later hlater => ?_⟩
    exact Nat.lt_of_lt_of_le (passed.rises first hfirst) ((h'.becomes later hlater).stage_le first.1)

theorem Passed.append {old middle new : Registry} {calls further : List (String × Session)}
    (h : Passed old calls middle) (h' : Passed middle further new) :
    Passed old (calls ++ further) new := by
  refine ⟨h'.wellFormed, h.becomes.trans h'.becomes, fun call hcall => ?_⟩
  rcases List.mem_append.1 hcall with hcall | hcall
  · exact Nat.lt_of_lt_of_le (h.rises call hcall) (h'.becomes.stage_le call.1)
  · exact h'.rises call hcall

section Calls

variable {assets : Assets}

/-- Resolving different ids that are all pending. -/
theorem ascending_calls (assets : Assets) {ids : List String} {session : Session}
    (wellFormed : session.registry.WellFormed) (nodup : ids.Nodup)
    (pending : ∀ id ∈ ids, session.registry.IsPending id) :
    Ascending session.registry (Step.calls (resolve assets) ids session) ∧
      ∀ final, resolveAll assets ids session = .ok () final →
        Passed session.registry (Step.calls (resolve assets) ids session) final.registry := by
  induction ids generalizing session with
  | nil =>
    refine ⟨.nil _, fun final h => ?_⟩
    cases h
    exact .nil wellFormed
  | cons id rest ih =>
    obtain ⟨hid, nodup⟩ := List.nodup_cons.1 nodup
    obtain ⟨hpending, pending⟩ := List.forall_mem_cons.1 pending
    have first : Ascending session.registry [(id, session)] :=
      ⟨by simpa using hpending, by simpa using Becomes.refl session.registry,
        List.pairwise_singleton _ _⟩
    cases hstep : resolve assets id session with
    | error error failed =>
      have hcalls : Step.calls (resolve assets) (id :: rest) session = [(id, session)] := by
        simp [Step.calls, hstep]
      rw [hcalls]
      refine ⟨first, fun final h => ?_⟩
      obtain ⟨middle, hok, -⟩ := Step.each_cons_eq_ok.1 h
      rw [hstep] at hok
      cases hok
    | ok _ middle =>
      have advances := advances_of_resolve wellFormed hpending hstep
      have passed : Passed session.registry [(id, session)] middle.registry :=
        ⟨advances.wellFormed, advances.becomes, by simpa using advances.rises⟩
      -- the ids behind the first one are others, so they are still pending
      obtain ⟨hascending, hpassed⟩ := ih advances.wellFormed nodup fun other hother =>
        advances.pending other (fun heq => hid (heq ▸ hother)) (pending other hother)
      rw [Step.calls_cons_of_ok hstep]
      refine ⟨Passed.ascending_append first passed hascending, fun final h => ?_⟩
      obtain ⟨next, hok, hrest⟩ := Step.each_cons_eq_ok.1 h
      rw [hstep] at hok
      cases hok
      exact passed.append (hpassed final hrest)

/-- The ids that the closure resolves, one after the other, in so many passes. -/
def resolvedIds (assets : Assets) (passes : Nat) (session : Session) : List String :=
  (resolutions assets passes session).map Prod.fst

theorem resolvedIds_of_pending_eq_nil {session : Session} (h : session.registry.pending = [])
    (passes : Nat) : resolvedIds assets passes session = [] := by
  rw [resolvedIds, resolutions_of_pending_eq_nil h, List.map_nil]

/-- Behind a pass that succeeds the ids are those of the further passes. -/
theorem resolveAll_resolvedIds_of_ok {session next : Session} (h : session.registry.pending ≠ [])
    (hpass : resolveAll assets session.registry.pending session = .ok () next) (passes : Nat) :
    resolveAll assets (resolvedIds assets (passes + 1) session) session =
      resolveAll assets (resolvedIds assets passes next) next := by
  rw [resolvedIds, resolutions_of_ok h hpass, List.map_append, Step.map_fst_calls hpass]
  unfold resolveAll at hpass ⊢
  rw [Step.each_append, Step.bind_apply, hpass]
  rfl

/-- A pass that fails is the last one. -/
theorem resolveAll_resolvedIds_of_error {session failed : Session} {error : Error}
    (h : session.registry.pending ≠ [])
    (hpass : resolveAll assets session.registry.pending session = .error error failed)
    (passes : Nat) :
    resolveAll assets (resolvedIds assets (passes + 1) session) session = .error error failed := by
  rw [resolvedIds, resolutions_of_error h hpass, resolveAll, Step.each_map_fst_calls, ← resolveAll,
    hpass]

/-- The recorded calls are those of the steps for the ids. -/
theorem calls_resolvedIds (passes : Nat) (session : Session) :
    Step.calls (resolve assets) (resolvedIds assets passes session) session =
      resolutions assets passes session := by
  unfold resolvedIds
  induction passes generalizing session with
  | zero => rfl
  | succ passes ih =>
    by_cases hpending : session.registry.pending = []
    · rw [resolutions_of_pending_eq_nil hpending]
      rfl
    · cases hpass : resolveAll assets session.registry.pending session with
      | ok _ next =>
        rw [resolutions_of_ok hpending hpass, List.map_append, Step.map_fst_calls hpass,
          Step.calls_append_of_ok hpass, ih next]
      | error error failed =>
        rw [resolutions_of_error hpending hpass, Step.calls_map_fst_calls]

/-- The closure resolves the ids, one after the other, and then asks whether anything is pending. -/
theorem close_eq (passes : Nat) (session : Session) :
    close assets passes session =
      (resolveAll assets (resolvedIds assets passes session) >>= fun _ => close assets 0)
        session := by
  induction passes generalizing session with
  | zero => rfl
  | succ passes ih =>
    by_cases hpending : session.registry.pending = []
    · rw [resolvedIds_of_pending_eq_nil hpending, close_of_pending_eq_nil hpending]
      exact (close_of_pending_eq_nil hpending 0).symm
    · rw [close_succ hpending, Step.bind_apply, Step.bind_apply]
      cases hpass : resolveAll assets session.registry.pending session with
      | ok _ next =>
        rw [resolveAll_resolvedIds_of_ok hpending hpass, ← Step.bind_apply]
        exact ih next
      | error error failed => rw [resolveAll_resolvedIds_of_error hpending hpass]

/-- All that the closure resolves. -/
theorem ascending_resolutions (assets : Assets) {session : Session}
    (wellFormed : session.registry.WellFormed) (passes : Nat) :
    Ascending session.registry (resolutions assets passes session) ∧
      ∀ final, resolveAll assets (resolvedIds assets passes session) session = .ok () final →
        Passed session.registry (resolutions assets passes session) final.registry := by
  induction passes generalizing session with
  | zero =>
    refine ⟨.nil _, fun final h => ?_⟩
    cases h
    exact .nil wellFormed
  | succ passes ih =>
    by_cases hpending : session.registry.pending = []
    · rw [resolutions_of_pending_eq_nil hpending]
      refine ⟨.nil _, fun final h => ?_⟩
      rw [resolvedIds_of_pending_eq_nil hpending] at h
      cases h
      exact .nil wellFormed
    · obtain ⟨hascending, hpassed⟩ := ascending_calls assets wellFormed
        wellFormed.nodup_pending fun id hid => wellFormed.isPending_of_mem hid
      cases hpass : resolveAll assets session.registry.pending session with
      | ok _ next =>
        have passed := hpassed next hpass
        obtain ⟨hlater, hend⟩ := ih passed.wellFormed
        rw [resolutions_of_ok hpending hpass]
        refine ⟨passed.ascending_append hascending hlater, fun final h => ?_⟩
        rw [resolveAll_resolvedIds_of_ok hpending hpass] at h
        exact passed.append (hend final h)
      | error error failed =>
        rw [resolutions_of_error hpending hpass]
        refine ⟨hascending, fun final h => ?_⟩
        rw [resolveAll_resolvedIds_of_error hpending hpass] at h
        cases h

/-! ## Counting the calls -/

/-- An id that is resolved, and whether it has a version then. -/
def phase (call : String × Session) : String × Bool :=
  (call.1, call.2.registry.isVersioned call.1)

theorem Ascending.nodup_phases {registry : Registry} {calls : List (String × Session)}
    (h : Ascending registry calls) : (calls.map phase).Nodup := by
  refine List.pairwise_map.2 (h.rises.imp_of_mem ?_)
  intro first later hfirst hlater hrises heq
  obtain ⟨hid, hversioned⟩ := Prod.mk.inj heq
  rw [← hid] at hversioned
  have hbefore := (h.pending first hfirst).stage_eq
  have hafter := (h.pending later hlater).stage_eq
  rw [← hid, ← hversioned] at hafter
  omega

/-- The phases that calls can be in, if they lead to a registry. -/
def phases (registry : Registry) : List (String × Bool) :=
  Table.keys registry.entries ×ˢ [false, true]

theorem mem_phases {registry : Registry} {id : String} {entry : Entry}
    (h : registry.get? id = some entry) (versioned : Bool) : (id, versioned) ∈ phases registry := by
  have hkey : id ∈ Table.keys registry.entries := List.mem_map_of_mem (Table.mem_of_get? h)
  exact List.mem_product.2 ⟨hkey, by cases versioned <;> simp⟩

/-- Calls after which an id is still pending are fewer than twice the ids: none of them was in the
    phase in which that id is now. -/
theorem Passed.length_lt {old new : Registry} {calls : List (String × Session)}
    (ascending : Ascending old calls) (passed : Passed old calls new) {id : String}
    (pending : new.IsPending id) : calls.length < 2 * new.entries.length := by
  have hfresh : (id, new.isVersioned id) ∉ calls.map phase := by
    intro hmem
    obtain ⟨call, hcall, heq⟩ := List.mem_map.1 hmem
    obtain ⟨rfl, hversioned⟩ := Prod.mk.inj heq
    have hrises := passed.rises call hcall
    rw [(ascending.pending call hcall).stage_eq, pending.stage_eq, hversioned] at hrises
    exact Nat.lt_irrefl _ hrises
  have hnodup : ((id, new.isVersioned id) :: calls.map phase).Nodup :=
    List.nodup_cons.2 ⟨hfresh, ascending.nodup_phases⟩
  have hsubset : (id, new.isVersioned id) :: calls.map phase ⊆ phases new := by
    refine List.cons_subset.2 ⟨?_, fun found hfound => ?_⟩
    · obtain ⟨entry, hentry, -⟩ := pending
      exact mem_phases hentry _
    · obtain ⟨call, hcall, rfl⟩ := List.mem_map.1 hfound
      -- the id has risen, so it has an entry
      cases hentry : new.get? call.1 with
      | none =>
        have hrises := passed.rises call hcall
        simp [stage, hentry] at hrises
      | some entry => exact mem_phases hentry _
  have hlength := (hnodup.subperm hsubset).length_le
  simp only [List.length_cons, List.length_map, phases, List.length_product, Table.keys,
    List.length_nil] at hlength
  omega

/-- If something is still pending in the end, every pass has resolved something. -/
theorem passes_le_length {passes : Nat} {session final : Session}
    (h : resolveAll assets (resolvedIds assets passes session) session = .ok () final)
    (pending : final.registry.pending ≠ []) :
    passes ≤ (resolutions assets passes session).length := by
  induction passes generalizing session with
  | zero => exact Nat.zero_le _
  | succ passes ih =>
    by_cases hpending : session.registry.pending = []
    · rw [resolvedIds_of_pending_eq_nil hpending] at h
      cases h
      exact absurd hpending pending
    · cases hpass : resolveAll assets session.registry.pending session with
      | ok _ next =>
        rw [resolveAll_resolvedIds_of_ok hpending hpass] at h
        have hlater := ih h
        have hfirst : 0 < (Step.calls (resolve assets) session.registry.pending session).length := by
          rw [← List.length_map Prod.fst, Step.map_fst_calls hpass]
          exact List.length_pos_iff.2 hpending
        rw [resolutions_of_ok hpending hpass, List.length_append]
        omega
      | error error failed =>
        rw [resolveAll_resolvedIds_of_error hpending hpass] at h
        cases h

/-- Passes beyond those that leave nothing pending, or that fail, resolve nothing more. -/
theorem resolutions_of_le {passes more : Nat} (hle : passes ≤ more) {session : Session}
    (h : ∀ final, resolveAll assets (resolvedIds assets passes session) session = .ok () final →
      final.registry.pending = []) :
    resolutions assets more session = resolutions assets passes session := by
  induction passes generalizing session more with
  | zero =>
    rw [resolutions_of_pending_eq_nil (h session rfl), resolutions_of_pending_eq_nil (h session rfl)]
  | succ passes ih =>
    obtain ⟨more, rfl⟩ : ∃ fewer, more = fewer + 1 := ⟨more - 1, by omega⟩
    by_cases hpending : session.registry.pending = []
    · rw [resolutions_of_pending_eq_nil hpending, resolutions_of_pending_eq_nil hpending]
    · cases hpass : resolveAll assets session.registry.pending session with
      | ok _ next =>
        have hrest : resolutions assets more next = resolutions assets passes next := by
          refine ih (by omega) fun final hfinal => h final ?_
          rw [resolveAll_resolvedIds_of_ok hpending hpass]
          exact hfinal
        rw [resolutions_of_ok hpending hpass, resolutions_of_ok hpending hpass, hrest]
      | error error failed =>
        rw [resolutions_of_error hpending hpass, resolutions_of_error hpending hpass]

end Calls

/-! ## How the closure fails -/

/-- The errors with which documents are found, read and scanned. -/
inductive OfDocuments : Error → Prop where
  | standard (name : String) : OfDocuments (.unsupportedStandard name)
  | missing (path : Path) (suggestion : Option String) :
    OfDocuments (.missingDocument path suggestion)
  | notText : OfDocuments .notText
  | corrupted (schema : String) (damage : Damage) : OfDocuments (.corrupted schema damage)
  | nesting (depth : Nat) : OfDocuments (.nestingTooDeep depth)

section Failures

open Step (FailsIn)

variable {assets : Assets}

theorem OfDocuments.of_unreadable {error : Error} (h : Store.Unreadable error) :
    OfDocuments error := by
  cases h with
  | notText => exact .notText
  | corrupted schema damage => exact .corrupted schema damage

theorem failsIn_require (standard : Standard) (stem : String) :
    FailsIn OfDocuments (Store.require assets standard stem) :=
  ((Store.failsIn_load standard stem).imp fun _ => .of_unreadable).bind fun _ =>
    .require _ (.missing _ _)

theorem failsIn_loadExtension (name tag : String) :
    FailsIn OfDocuments (Store.loadExtension assets name tag) :=
  (Store.failsIn_loadExtension name tag).imp fun _ => .of_unreadable

theorem failsIn_documentOf (entry : Entry) : FailsIn OfDocuments (documentOf assets entry) := by
  unfold documentOf
  split
  · exact .pure _
  · exact failsIn_require _ _
  · exact (failsIn_loadExtension _ _).bind fun _ => .require _ (.missing _ _)

theorem failsIn_addScan (owner : Option String) (scan : Scan) :
    FailsIn OfDocuments (addScan assets owner scan) := by
  refine (FailsIn.modify _).bind fun _ => ?_
  split
  · exact .pure _
  · exact .throw (.nesting _)

theorem failsIn_seed (id standardName : String) :
    FailsIn OfDocuments (seed assets id standardName) := by
  refine (FailsIn.ofExcept fun error h => ?_).bind fun _ => .modify _
  unfold Standard.ofName at h
  split at h
  · cases h
  · split at h
    · cases h
    · cases h
      exact .standard _

theorem failsIn_seedExtension (extension : Assets.ExtensionDocument) :
    FailsIn OfDocuments (seedExtension assets extension) := by
  refine (FailsIn.onPart ?_).bind fun _ => .onPart ?_
  · exact (failsIn_loadExtension _ _).bind fun _ => .require _ (.missing _ _)
  · exact (FailsIn.modify _).bind fun _ => failsIn_addScan _ _

theorem failsIn_resolve (id : String) : FailsIn OfDocuments (resolve assets id) := by
  refine FailsIn.get.bind fun session => ?_
  split
  · exact .pure _
  · refine (FailsIn.onPart (failsIn_documentOf _)).bind fun document => .onPart ?_
    exact (failsIn_addScan _ _).bind fun _ => .modify _

/-- Registers what is always emitted and what the extension documents mention. -/
def seedAll (assets : Assets) : Step Session Unit := do
  Session.registering (seedBaseline assets assets.config.registry.baseline)
  seedExtensions assets assets.extensionDocuments

theorem failsIn_seedAll : FailsIn OfDocuments (seedAll assets) :=
  (FailsIn.onPart (.each (fun _ => failsIn_seed _ _) _)).bind fun _ =>
    .each failsIn_seedExtension _

end Failures

/-! ## The bound -/

/-- Completes the registry in at most so many passes. -/
def finalizeWithin (assets : Assets) (passes : Nat) : Step Session Unit := do
  seedAll assets
  close assets passes

/-- The calls in which entries are resolved while a registry is completed, each with the session in
    which it begins. -/
def closureCalls (assets : Assets) (session : Session) : List (String × Session) :=
  match seedAll assets session with
  | .ok _ seeded => resolutions assets assets.config.limits.closurePasses seeded
  | .error _ _ => []

variable {assets : Assets}

theorem finalize_eq_finalizeWithin (session : Session) :
    finalize assets session =
      finalizeWithin assets assets.config.limits.closurePasses session := by
  simp only [finalize, finalizeWithin, seedAll, Step.bind_apply]
  cases Session.registering (seedBaseline assets assets.config.registry.baseline) session <;> rfl

theorem finalizeWithin_of_seeded {session seeded : Session}
    (h : seedAll assets session = .ok () seeded) (passes : Nat) :
    finalizeWithin assets passes session =
      (resolveAll assets (resolvedIds assets passes seeded) >>= fun _ => close assets 0)
        seeded := by
  rw [finalizeWithin, Step.bind_apply, h]
  exact close_eq passes seeded

theorem finalizeWithin_of_error {session failed : Session} {error : Error}
    (h : seedAll assets session = .error error failed) (passes : Nat) :
    finalizeWithin assets passes session = .error error failed := by
  rw [finalizeWithin, Step.bind_apply, h]

theorem closureCalls_of_seeded {session seeded : Session}
    (h : seedAll assets session = .ok () seeded) :
    closureCalls assets session =
      resolutions assets assets.config.limits.closurePasses seeded := by
  rw [closureCalls, h]

theorem closureCalls_of_error {session failed : Session} {error : Error}
    (h : seedAll assets session = .error error failed) : closureCalls assets session = [] := by
  rw [closureCalls, h]

/-- Once the seeds are registered, completing a registry is resolving the recorded ids and asking
    whether anything is pending. -/
theorem finalize_of_seeded {session seeded : Session}
    (h : seedAll assets session = .ok () seeded) :
    let ids := (closureCalls assets session).map Prod.fst
    finalize assets session = (resolveAll assets ids >>= fun _ => close assets 0) seeded ∧
      closureCalls assets session = Step.calls (resolve assets) ids seeded := by
  rw [closureCalls_of_seeded h]
  exact ⟨(finalize_eq_finalizeWithin session).trans (finalizeWithin_of_seeded h _),
    (calls_resolvedIds _ _).symm⟩

theorem wellFormed_of_seedAll {session seeded : Session}
    (h : seedAll assets session = .ok () seeded) (wellFormed : session.registry.WellFormed) :
    seeded.registry.WellFormed := by
  have invariant := invariant_becomes assets session.registry
  have keeps : Step.Keeps _ (seedAll assets) :=
    (Session.keeps_registering (invariant.keeps_seedBaseline _)).bind fun _ =>
      invariant.keeps_seedExtensions
  exact (keeps.of_ok h ⟨trivial, .refl _, wellFormed⟩).2.2

theorem exists_ascending_closureCalls (assets : Assets) {session : Session}
    (wellFormed : session.registry.WellFormed) :
    ∃ registry, Ascending registry (closureCalls assets session) := by
  cases h : seedAll assets session with
  | error error failed =>
    rw [closureCalls_of_error h]
    exact ⟨_, .nil session.registry⟩
  | ok _ seeded =>
    rw [closureCalls_of_seeded h]
    exact ⟨_, (ascending_resolutions assets (wellFormed_of_seedAll h wellFormed) _).1⟩

/-- Where the passes end with something pending, there were fewer of them than twice the ids. -/
theorem passes_lt_of_pending {session final : Session} {passes : Nat}
    (wellFormed : session.registry.WellFormed)
    (h : resolveAll assets (resolvedIds assets passes session) session = .ok () final)
    (pending : final.registry.pending ≠ []) : passes < 2 * final.registry.entries.length := by
  obtain ⟨ascending, hpassed⟩ := ascending_resolutions assets wellFormed passes
  have passed := hpassed final h
  obtain ⟨id, hid⟩ := List.exists_mem_of_ne_nil _ pending
  have hlength := passed.length_lt ascending (passed.wellFormed.isPending_of_mem hid)
  have hpasses := passes_le_length h pending
  omega

/-- A registry that is not completed within the passes has more than half as many ids. -/
theorem passes_lt_of_notConverged {session failed : Session} {passes : Nat} {pending : List String}
    (wellFormed : session.registry.WellFormed)
    (h : finalize assets session = .error (.notConverged passes pending) failed) :
    passes = assets.config.limits.closurePasses ∧
      passes < 2 * failed.registry.entries.length := by
  cases hseeds : seedAll assets session with
  | error error later =>
    rw [finalize_eq_finalizeWithin, finalizeWithin_of_error hseeds] at h
    cases h
    cases failsIn_seedAll session _ _ hseeds
  | ok _ seeded =>
    rw [finalize_eq_finalizeWithin, finalizeWithin_of_seeded hseeds, Step.bind_apply] at h
    split at h
    · next final hresolved =>
      -- the ids are resolved, so it is the question at the end that fails
      rw [close_zero] at h
      split at h
      · cases h
      · next hpending =>
        cases h
        exact ⟨rfl, passes_lt_of_pending (wellFormed_of_seedAll hseeds wellFormed) hresolved
          hpending⟩
    · next error later hresolved =>
      cases h
      cases Step.FailsIn.each failsIn_resolve _ _ _ _ hresolved

/-- With twice as many passes as there are ids in the end, more passes change nothing. -/
theorem finalizeWithin_of_le {session : Session} (wellFormed : session.registry.WellFormed)
    (h : 2 * ((finalize assets).after session).registry.entries.length ≤
      assets.config.limits.closurePasses)
    {passes : Nat} (hle : assets.config.limits.closurePasses ≤ passes) :
    finalizeWithin assets passes session = finalize assets session := by
  rw [finalize_eq_finalizeWithin session]
  cases hseeds : seedAll assets session with
  | error error failed =>
    rw [finalizeWithin_of_error hseeds, finalizeWithin_of_error hseeds]
  | ok _ seeded =>
    rw [finalizeWithin_of_seeded hseeds, finalizeWithin_of_seeded hseeds, resolvedIds, resolvedIds,
      resolutions_of_le hle]
    intro final hresolved
    by_contra hpending
    have hfailed := (close_zero assets final).trans (if_neg hpending)
    have hfinalize : finalize assets session = close assets 0 final := by
      rw [finalize_eq_finalizeWithin, finalizeWithin_of_seeded hseeds, Step.bind_apply, hresolved]
    have hafter := Step.after_of_error (hfinalize.trans hfailed)
    have hbound := passes_lt_of_pending (wellFormed_of_seedAll hseeds wellFormed) hresolved hpending
    rw [hafter] at h
    omega

/-- Completing a reachable registry resolves each id at most once while it is pending without a
    version and at most once while it is pending with one. So where the passes do not suffice, they
    are fewer than twice the ids that have an entry then; and where they are at least twice the ids
    in the end, the outcome is the same with any more of them. -/
theorem Reachable.passes_bounded {registry : Registry} (h : Reachable registry) (assets : Assets)
    (store : Store) :
    let session : Session := ⟨store, registry⟩
    let limit := assets.config.limits.closurePasses
    let calls := closureCalls assets session
    let ids := calls.map Prod.fst
    (∀ seeded, seedAll assets session = .ok () seeded →
      finalize assets session = (resolveAll assets ids >>= fun _ => close assets 0) seeded ∧
        calls = Step.calls (resolve assets) ids seeded) ∧
    (∀ call ∈ calls, call.2.registry.IsPending call.1) ∧
    (calls.map fun call => (call.1, call.2.registry.isVersioned call.1)).Nodup ∧
    (∀ passes pending failed,
      finalize assets session = .error (.notConverged passes pending) failed →
        passes = limit ∧ passes < 2 * failed.registry.entries.length) ∧
    (2 * ((finalize assets).after session).registry.entries.length ≤ limit →
      ∀ passes, limit ≤ passes →
        finalizeWithin assets passes session = finalize assets session) := by
  intro session limit calls ids
  have wellFormed : session.registry.WellFormed := h.wellFormed
  obtain ⟨first, ascending⟩ := exists_ascending_closureCalls assets wellFormed
  refine ⟨?_, ascending.pending, ascending.nodup_phases, ?_, ?_⟩
  · intro seeded hseeds
    exact finalize_of_seeded hseeds
  · intro passes pending failed hfailed
    exact passes_lt_of_notConverged h.wellFormed hfailed
  · intro hlimit passes hpasses
    exact finalizeWithin_of_le h.wellFormed hlimit hpasses

/-- A schema document that mentions a version of its own schema. -/
def versioningItself (passes : Nat) : Assets where
  files := Store.bundleFiles
    [("A.json", "\x7b\"definitions\":\x7b\"A\":\x7b\"$ref\":\"A.v1_0_0.json\"\x7d\x7d\x7d"),
      ("A.v1_0_0.json", "\x7b\x7d")]
  config := {
    limits := { closurePasses := passes }
    registry := { baseline := [], fileMap := [] } }

/-- Asking for that schema without a version. -/
def registersUnversioned : Operation :=
  .register (.pending .redfish "A" none) (Entry.sound_pending _ _ _)

/-- The one id is resolved twice, so one pass is not enough, which is one less than twice the number
    of ids. -/
theorem passes_bounded_versioningItself :
    let assets := versioningItself 1
    let session := (registersUnversioned.run assets).after .start
    Reachable session.registry ∧
      ∃ failed, finalize assets session = .error (.notConverged 1 ["A"]) failed ∧
        failed.registry.entries.length = 1 ∧ 1 < 2 * failed.registry.entries.length := by
  intro assets session
  have reachable : Reachable session.registry := .run .empty assets .empty registersUnversioned
  obtain ⟨error, failed, hfailed, rfl, hcount⟩ : ∃ error failed,
      finalize assets session = .error error failed ∧ error = .notConverged 1 ["A"] ∧
        failed.registry.entries.length = 1 := by decide +kernel
  obtain ⟨-, -, -, bounded, -⟩ := Reachable.passes_bounded reachable assets session.store
  exact ⟨reachable, failed, hfailed, hcount, (bounded _ _ failed hfailed).2⟩

/-- Two passes are enough: as many as twice the number of ids. -/
example :
    let assets := versioningItself 2
    ∃ value final, finalize assets ((registersUnversioned.run assets).after .start) =
      .ok value final ∧ final.registry.isVersioned "A" = true := by decide +kernel

end Registry

end ResourceModel

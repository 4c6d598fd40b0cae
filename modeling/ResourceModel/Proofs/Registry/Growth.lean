import ResourceModel.Proofs.Registry.Scan
import ResourceModel.Proofs.Step
import ResourceModel.Proofs.Table
import ResourceModel.Registry.Closure

set_option autoImplicit false

/-! # Growth of the registry

Registering never takes an entry away: an entry stays as it is, or an unversioned one gives way to a
versioned one. Every mention that is registered leaves an entry of its schema id, and no other id
gets one. The entries stand under their own ids, in ascending order, and a resolved one holds its
document. Settling an entry marks it only where it still stands. -/

namespace ResourceModel

namespace Entry

/-- Whether an entry that is resolved holds its document. -/
def Sound (entry : Entry) : Prop :=
  entry.resolved = true → entry.document.isSome = true

theorem sound_pending (standard : Standard) (id : String) (version : Option Version) :
    (pending standard id version).Sound := by
  intro h
  simp [pending] at h

theorem sound_known (standard : Standard) (id : String) (version : Option Version)
    (document : Json) : (known standard id version document).Sound :=
  fun _ => rfl

theorem sound_ofExtension (id : String) (version : Version) (document : Option Json) :
    (ofExtension id version document).Sound := by
  intro h
  simp [ofExtension] at h

end Entry

namespace Registry

/-! ## Entries after a change -/

@[simp]
theorem get?_empty (id : String) : empty.get? id = none := rfl

@[simp]
theorem entries_mention (registry : Registry) (id : String) :
    (registry.mention id).entries = registry.entries := by
  unfold mention
  split <;> rfl

@[simp]
theorem entries_addEdge (registry : Registry) (source target : String) :
    (registry.addEdge source target).entries = registry.entries := by
  unfold addEdge
  simp only
  split <;> simp

theorem entries_register (registry : Registry) (entry : Entry) :
    (registry.register entry).entries =
      if registry.accepts entry then Table.put registry.entries entry.id entry
      else registry.entries := by
  unfold register
  simp only
  split <;> simp

theorem get?_of_entries {registry other : Registry} (h : registry.entries = other.entries)
    (id : String) : registry.get? id = other.get? id := by
  rw [get?, get?, h]

theorem get?_register (registry : Registry) (entry : Entry) (id : String) :
    (registry.register entry).get? id =
      if id = entry.id ∧ registry.accepts entry then some entry else registry.get? id := by
  unfold get?
  rw [entries_register]
  by_cases haccepts : registry.accepts entry
  · rw [if_pos haccepts, Table.get?_put]
    simp [haccepts]
  · simp [haccepts]

theorem accepts_iff {registry : Registry} {entry : Entry} :
    registry.accepts entry ↔
      ∀ existing, registry.get? entry.id = some existing →
        existing.version = none ∧ entry.version.isSome := by
  unfold accepts
  cases registry.get? entry.id with
  | none => simp
  | some existing => simp

/-! ## Growth -/

/-- Whether every entry of a registry stays in a later one as it is, or gives way to a versioned
    one if it is not versioned. -/
def Grows (old new : Registry) : Prop :=
  ∀ id entry, old.get? id = some entry →
    ∃ next, new.get? id = some next ∧ (next = entry ∨ entry.version = none ∧ next.version.isSome)

theorem Grows.refl (registry : Registry) : registry.Grows registry :=
  fun _ entry h => ⟨entry, h, Or.inl rfl⟩

theorem Grows.trans {first second third : Registry} (h : first.Grows second)
    (h' : second.Grows third) : first.Grows third := by
  intro id entry hentry
  obtain ⟨middle, hmiddle, hstep⟩ := h id entry hentry
  obtain ⟨last, hlast, hstep'⟩ := h' id middle hmiddle
  refine ⟨last, hlast, ?_⟩
  rcases hstep with rfl | ⟨hnone, hsome⟩
  · exact hstep'
  · rcases hstep' with rfl | ⟨hnone', _⟩
    · exact Or.inr ⟨hnone, hsome⟩
    · rw [hnone'] at hsome
      simp at hsome

theorem Grows.of_entries {old new : Registry} (h : new.entries = old.entries) : old.Grows new :=
  fun id entry hentry => ⟨entry, (get?_of_entries h id).trans hentry, Or.inl rfl⟩

theorem Grows.isSome {old new : Registry} (h : old.Grows new) {id : String}
    (hid : (old.get? id).isSome) : (new.get? id).isSome := by
  obtain ⟨entry, hentry⟩ := Option.isSome_iff_exists.1 hid
  obtain ⟨next, hnext, _⟩ := h id entry hentry
  exact Option.isSome_of_eq_some hnext

/-- A versioned entry stays as it is. -/
theorem Grows.get?_of_versioned {old new : Registry} (h : old.Grows new) {id : String}
    {entry : Entry} (hentry : old.get? id = some entry) (hversion : entry.version.isSome) :
    new.get? id = some entry := by
  obtain ⟨next, hnext, rfl | ⟨hnone, _⟩⟩ := h id entry hentry
  · exact hnext
  · rw [hnone] at hversion
    simp at hversion

/-- An entry that is still not versioned has stayed as it was. -/
theorem Grows.eq_of_unversioned {old new : Registry} (h : old.Grows new) {id : String}
    {entry next : Entry} (hentry : old.get? id = some entry) (hnext : new.get? id = some next)
    (hversion : next.version = none) : next = entry := by
  obtain ⟨found, hfound, hstep⟩ := h id entry hentry
  obtain rfl := Option.some.inj (hnext.symm.trans hfound)
  rcases hstep with heq | ⟨_, hsome⟩
  · exact heq
  · rw [hversion] at hsome
    simp at hsome

/-- An entry after registering was there before or is the registered one. -/
theorem get?_register_cases {registry : Registry} {entry found : Entry} {id : String}
    (h : (registry.register entry).get? id = some found) :
    registry.get? id = some found ∨ found = entry := by
  rw [get?_register] at h
  split at h
  · exact Or.inr (Option.some.inj h).symm
  · exact Or.inl h

/-- Registering leaves an entry of the registered id, and no other id gets one. -/
theorem get?_register_isSome (registry : Registry) (entry : Entry) (id : String) :
    ((registry.register entry).get? id).isSome ↔ (registry.get? id).isSome ∨ entry.id = id := by
  rw [get?_register]
  by_cases hid : entry.id = id
  · subst hid
    by_cases haccepts : registry.accepts entry
    · simp [haccepts]
    · -- what is not taken is refused because of an entry that is there
      have hsome : (registry.get? entry.id).isSome := by
        rw [accepts_iff] at haccepts
        cases h : registry.get? entry.id with
        | none => simp [h] at haccepts
        | some existing => rfl
      simp [haccepts, hsome]
  · simp [hid, Ne.symm hid]

theorem grows_register (registry : Registry) (entry : Entry) :
    registry.Grows (registry.register entry) := by
  intro id existing hexisting
  rw [get?_register]
  split
  · next h =>
    obtain ⟨rfl, haccepts⟩ := h
    exact ⟨entry, rfl, Or.inr (accepts_iff.1 haccepts existing hexisting)⟩
  · exact ⟨existing, hexisting, Or.inl rfl⟩

/-! ## Mentions -/

@[simp]
theorem entryOf_id (assets : Assets) (mentioned : Mention) :
    (entryOf assets mentioned).id = mentioned.id := by
  unfold entryOf
  simp only
  split
  · rfl
  · split <;> rfl

/-- The entry of a mention is to be resolved and holds no document. -/
theorem entryOf_unresolved (assets : Assets) (mentioned : Mention) :
    (entryOf assets mentioned).resolved = false ∧ (entryOf assets mentioned).document = none := by
  unfold entryOf
  simp only
  split
  · exact ⟨rfl, rfl⟩
  · split <;> exact ⟨rfl, rfl⟩

theorem isVersioned_iff {registry : Registry} {id : String} :
    registry.isVersioned id ↔ ∃ entry, registry.get? id = some entry ∧ entry.version.isSome := by
  unfold isVersioned
  cases registry.get? id with
  | none => simp
  | some entry => simp

theorem get?_registerMention_isSome (assets : Assets) (registry : Registry) (mentioned : Mention)
    (id : String) :
    ((registry.registerMention assets mentioned).get? id).isSome ↔
      (registry.get? id).isSome ∨ mentioned.id = id := by
  unfold registerMention
  split
  · next h =>
    obtain ⟨entry, hentry, _⟩ := isVersioned_iff.1 h
    constructor
    · exact Or.inl
    · rintro (h | rfl)
      · exact h
      · exact Option.isSome_of_eq_some hentry
  · rw [get?_register_isSome, entryOf_id]

/-- The registry with several mentions registered, one after the other. -/
def registerMentions (assets : Assets) (registry : Registry) (mentions : List Mention) : Registry :=
  mentions.foldl (registerMention assets) registry

theorem registerMentions_append (assets : Assets) (registry : Registry)
    (mentions further : List Mention) :
    registry.registerMentions assets (mentions ++ further) =
      (registry.registerMentions assets mentions).registerMentions assets further :=
  List.foldl_append

theorem entries_registerMention_congr (assets : Assets) {registry other : Registry}
    (h : registry.entries = other.entries) (mentioned : Mention) :
    (registry.registerMention assets mentioned).entries =
      (other.registerMention assets mentioned).entries := by
  have hversioned : registry.isVersioned mentioned.id = other.isVersioned mentioned.id := by
    rw [isVersioned, isVersioned, get?_of_entries h]
  have haccepts : registry.accepts (entryOf assets mentioned) =
      other.accepts (entryOf assets mentioned) := by
    rw [accepts, accepts, get?_of_entries h]
  unfold registerMention
  rw [hversioned]
  split
  · exact h
  · rw [entries_register, entries_register, haccepts, h]

theorem entries_registerMentions_congr (assets : Assets) (mentions : List Mention) :
    ∀ {registry other : Registry}, registry.entries = other.entries →
      (registry.registerMentions assets mentions).entries =
        (other.registerMentions assets mentions).entries := by
  induction mentions with
  | nil => exact fun h => h
  | cons mentioned rest ih =>
    exact fun h => ih (entries_registerMention_congr assets h mentioned)

theorem get?_registerMentions_isSome (assets : Assets) (mentions : List Mention)
    (registry : Registry) (id : String) :
    ((registry.registerMentions assets mentions).get? id).isSome ↔
      (registry.get? id).isSome ∨ ∃ mentioned ∈ mentions, mentioned.id = id := by
  induction mentions generalizing registry with
  | nil => simp [registerMentions]
  | cons mentioned rest ih =>
    rw [registerMentions, List.foldl_cons]
    refine (ih (registry.registerMention assets mentioned)).trans ?_
    rw [get?_registerMention_isSome]
    simp only [List.mem_cons, exists_eq_or_imp, or_assoc]

/-! ## Dependencies -/

theorem entries_addDependency (assets : Assets) (owner : Option String) (registry : Registry)
    (uri : String) :
    (registry.addDependency assets owner uri).entries =
      (registry.registerMentions assets (Mention.ofUri? uri).toList).entries := by
  unfold addDependency
  split
  · next h => rw [h]; rfl
  · next mentioned h =>
    rw [h]
    simp only
    split
    · split
      · rfl
      · rw [entries_addEdge]; rfl
    · rfl

/-- The entries after the references of a scan do not depend on who owns them: they are those after
    the mentions. -/
theorem entries_addDependencies (assets : Assets) (owner : Option String) (uris : List String)
    (registry : Registry) :
    (registry.addDependencies assets owner uris).entries =
      (registry.registerMentions assets (uris.filterMap Mention.ofUri?)).entries := by
  induction uris generalizing registry with
  | nil => rfl
  | cons uri rest ih =>
    rw [addDependencies, List.foldl_cons]
    refine (ih (registry.addDependency assets owner uri)).trans ?_
    rw [entries_registerMentions_congr assets _ (entries_addDependency assets owner registry uri)]
    cases h : Mention.ofUri? uri with
    | none => rw [List.filterMap_cons_none h]; rfl
    | some mentioned => rw [List.filterMap_cons_some h]; rfl

theorem get?_addDependencies_isSome (assets : Assets) (owner : Option String) (uris : List String)
    (registry : Registry) (id : String) :
    ((registry.addDependencies assets owner uris).get? id).isSome ↔
      (registry.get? id).isSome ∨ ∃ mentioned ∈ uris.filterMap Mention.ofUri?, mentioned.id = id := by
  rw [get?_of_entries (entries_addDependencies assets owner uris registry),
    get?_registerMentions_isSome]

/-- Whether a relation between a registry and a later one is kept up when a schema that is mentioned
    is registered, or an edge to a registered schema is drawn. -/
structure Accumulates (assets : Assets) (related : Registry → Registry → Prop) : Prop where
  refl : ∀ registry, related registry registry
  trans : ∀ {first second third}, related first second → related second third → related first third
  register : ∀ registry mentioned, related registry (registry.register (entryOf assets mentioned))
  addEdge : ∀ registry {source target}, source ≠ target → (registry.get? target).isSome →
    related registry (registry.addEdge source target)

namespace Accumulates

variable {assets : Assets} {related : Registry → Registry → Prop}

/-- A property that both keep is kept from each registry to the later one. -/
theorem of_kept {kept : Registry → Prop}
    (register : ∀ {registry} mentioned, kept registry →
      kept (registry.register (entryOf assets mentioned)))
    (addEdge : ∀ {registry source target}, kept registry → source ≠ target →
      (registry.get? target).isSome → kept (registry.addEdge source target)) :
    Accumulates assets fun old new => kept old → kept new where
  refl _ h := h
  trans h h' hfirst := h' (h hfirst)
  register _ mentioned h := register mentioned h
  addEdge _ _ _ hne htarget h := addEdge h hne htarget

theorem registerMention (h : Accumulates assets related) (registry : Registry)
    (mentioned : Mention) : related registry (registry.registerMention assets mentioned) := by
  unfold Registry.registerMention
  split
  · exact h.refl registry
  · exact h.register registry mentioned

theorem addDependency (h : Accumulates assets related) (owner : Option String)
    (registry : Registry) (uri : String) :
    related registry (registry.addDependency assets owner uri) := by
  unfold Registry.addDependency
  split
  · exact h.refl registry
  · next mentioned _ =>
    have hmention := h.registerMention registry mentioned
    simp only
    split
    · split
      · exact hmention
      · next hne =>
        -- the schema that is depended on is registered before the edge to it is drawn
        refine h.trans hmention (h.addEdge _ hne ?_)
        exact (get?_registerMention_isSome assets registry mentioned mentioned.id).2 (Or.inr rfl)
    · exact hmention

theorem addDependencies (h : Accumulates assets related) (owner : Option String)
    (uris : List String) (registry : Registry) :
    related registry (registry.addDependencies assets owner uris) := by
  induction uris generalizing registry with
  | nil => exact h.refl registry
  | cons uri rest ih => exact h.trans (h.addDependency owner registry uri) (ih _)

end Accumulates

theorem accumulates_grows (assets : Assets) : Accumulates assets Grows where
  refl := .refl
  trans := .trans
  register registry _ := grows_register registry _
  addEdge registry _ _ _ _ := .of_entries (entries_addEdge registry _ _)

theorem grows_addDependencies (assets : Assets) (owner : Option String) (uris : List String)
    (registry : Registry) : registry.Grows (registry.addDependencies assets owner uris) :=
  (accumulates_grows assets).addDependencies owner uris registry

theorem accumulates_entryOf (assets : Assets) : Accumulates assets fun old new =>
    ∀ id found, new.get? id = some found →
      old.get? id = some found ∨ ∃ mentioned, found = entryOf assets mentioned where
  refl _ _ _ h := Or.inl h
  trans h h' id found hfound := (h' id found hfound).elim (h id found) Or.inr
  register _ mentioned _ _ h := (get?_register_cases h).imp_right fun heq => ⟨mentioned, heq⟩
  addEdge registry _ _ _ _ id _ h :=
    Or.inl ((get?_of_entries (entries_addEdge registry _ _) id).symm.trans h)

/-- An entry after the references of a scan was there before or is that of a mention. -/
theorem get?_addDependencies_cases {assets : Assets} {owner : Option String} {uris : List String}
    {registry : Registry} {id : String} {found : Entry}
    (h : (registry.addDependencies assets owner uris).get? id = some found) :
    registry.get? id = some found ∨ ∃ mentioned, found = entryOf assets mentioned :=
  (accumulates_entryOf assets).addDependencies owner uris registry id found h

/-- Registering the schema of a reference is adding it as a dependency that nobody owns. -/
theorem registerReference_eq (assets : Assets) (registry : Registry) (uri : String) :
    registry.registerReference assets uri = registry.addDependencies assets none [uri] := by
  simp only [addDependencies, List.foldl_cons, List.foldl_nil, registerReference, addDependency]
  cases Mention.ofUri? uri <;> rfl

theorem addScan_apply (assets : Assets) (owner : Option String) (scan : Scan)
    (registry : Registry) :
    addScan assets owner scan registry =
      if scan.complete then .ok () (registry.addDependencies assets owner scan.references)
      else .error (.nestingTooDeep assets.config.limits.nestingDepth)
        (registry.addDependencies assets owner scan.references) := by
  unfold addScan
  rw [Step.bind_apply, Step.modify_apply]
  simp only
  split <;> rfl

theorem addScan_eq_ok {assets : Assets} {owner : Option String} {scan : Scan}
    {registry final : Registry} {value : Unit} :
    addScan assets owner scan registry = .ok value final ↔
      scan.complete ∧ final = registry.addDependencies assets owner scan.references := by
  rw [addScan_apply]
  cases scan.complete with
  | true => simp [eq_comm]
  | false => simp

theorem after_addScan (assets : Assets) (owner : Option String) (scan : Scan)
    (registry : Registry) :
    (addScan assets owner scan).after registry =
      registry.addDependencies assets owner scan.references := by
  have happly := addScan_apply assets owner scan registry
  cases hcomplete : scan.complete with
  | true =>
    rw [hcomplete, if_pos rfl] at happly
    exact Step.after_of_ok happly
  | false =>
    rw [hcomplete, if_neg Bool.false_ne_true] at happly
    exact Step.after_of_error happly

/-! ## Well-formed registries -/

/-- Whether the entries stand under their own ids in ascending order, one for each id, and those
    that are resolved hold their documents. -/
structure WellFormed (registry : Registry) : Prop where
  sorted : Table.Sorted registry.entries
  own : ∀ row ∈ registry.entries, row.2.id = row.1
  sound : ∀ row ∈ registry.entries, row.2.Sound

theorem wellFormed_empty : empty.WellFormed :=
  ⟨.nil, fun _ h => by simp [empty] at h, fun _ h => by simp [empty] at h⟩

theorem WellFormed.of_entries {registry other : Registry} (h : registry.WellFormed)
    (hentries : other.entries = registry.entries) : other.WellFormed := by
  constructor
  · rw [hentries]
    exact h.sorted
  · rw [hentries]
    exact h.own
  · rw [hentries]
    exact h.sound

theorem WellFormed.id_of_get? {registry : Registry} (h : registry.WellFormed) {id : String}
    {entry : Entry} (hentry : registry.get? id = some entry) : entry.id = id :=
  h.own _ (Table.mem_of_get? hentry)

/-- Putting a sound entry under its own id keeps a registry well-formed. -/
theorem WellFormed.put {registry : Registry} (h : registry.WellFormed) {entry : Entry}
    (sound : entry.Sound) {other : Registry}
    (hother : other.entries = Table.put registry.entries entry.id entry) : other.WellFormed := by
  constructor
  · rw [hother]
    exact h.sorted.put _ _
  · rw [hother]
    intro row hrow
    rcases Table.mem_put hrow with rfl | hrow
    · rfl
    · exact h.own row hrow
  · rw [hother]
    intro row hrow
    rcases Table.mem_put hrow with rfl | hrow
    · exact sound
    · exact h.sound row hrow

theorem WellFormed.register {registry : Registry} (h : registry.WellFormed) {entry : Entry}
    (sound : entry.Sound) : (registry.register entry).WellFormed := by
  by_cases haccepts : registry.accepts entry
  · exact h.put sound (by rw [entries_register, if_pos haccepts])
  · exact h.of_entries (by rw [entries_register, if_neg haccepts])

theorem accumulates_wellFormed (assets : Assets) :
    Accumulates assets fun old new => old.WellFormed → new.WellFormed := by
  refine .of_kept (fun mentioned h => h.register fun hresolved => ?_)
    fun h _ _ => h.of_entries (entries_addEdge _ _ _)
  rw [(entryOf_unresolved assets mentioned).1] at hresolved
  simp at hresolved

theorem WellFormed.addDependencies {registry : Registry} (h : registry.WellFormed)
    (assets : Assets) (owner : Option String) (uris : List String) :
    (registry.addDependencies assets owner uris).WellFormed :=
  (accumulates_wellFormed assets).addDependencies owner uris registry h

/-! ## Settling -/

/-- An entry of a later registry that has the version of an earlier entry is that entry. -/
theorem Grows.eq_of_sameVersion {old new : Registry} (h : old.Grows new) {id : String}
    {entry next : Entry} (hentry : old.get? id = some entry) (hnext : new.get? id = some next)
    (hversion : sameVersion next.version entry.version = true) : next = entry := by
  cases hold : entry.version with
  | none =>
    refine h.eq_of_unversioned hentry hnext ?_
    rw [hold] at hversion
    cases hnew : next.version with
    | none => rfl
    | some version => simp [hnew, sameVersion] at hversion
  | some version =>
    have hsame := h.get?_of_versioned hentry (Option.isSome_of_eq_some hold)
    exact Option.some.inj (hnext.symm.trans hsame)

/-- An entry is settled in a registry that has grown since it was read: it is marked, or it has been
    replaced and nothing is done. -/
theorem settle_cases {old registry : Registry} {entry : Entry} (grows : old.Grows registry)
    (hentry : old.get? entry.id = some entry) (document : Json) :
    registry.settle entry document = registry ∨
      registry.get? entry.id = some entry ∧
        (registry.settle entry document).entries = Table.put registry.entries entry.id
          { entry with resolved := true, document := some document } := by
  obtain ⟨current, hcurrent, _⟩ := grows entry.id entry hentry
  by_cases hversion : sameVersion current.version entry.version = true
  · -- of the same version it can only be the entry itself
    obtain rfl := grows.eq_of_sameVersion hentry hcurrent hversion
    refine Or.inr ⟨hcurrent, ?_⟩
    simp only [settle, hcurrent, hversion, if_true]
  · refine Or.inl ?_
    simp only [settle, hcurrent, hversion, if_false, Bool.false_eq_true]

theorem get?_settle_isSome (registry : Registry) (entry : Entry) (document : Json) (id : String) :
    ((registry.settle entry document).get? id).isSome ↔ (registry.get? id).isSome := by
  unfold settle
  split
  · next current hcurrent =>
    split
    · unfold get? at hcurrent ⊢
      rw [Table.get?_put]
      split
      · next h =>
        rw [h, hcurrent]
        simp
      · exact Iff.rfl
    · exact Iff.rfl
  · exact Iff.rfl

theorem WellFormed.settle {old registry : Registry} (h : registry.WellFormed) {entry : Entry}
    (grows : old.Grows registry) (hentry : old.get? entry.id = some entry) (document : Json) :
    (registry.settle entry document).WellFormed := by
  rcases settle_cases grows hentry document with heq | ⟨_, hentries⟩
  · rw [heq]
    exact h
  · have sound : ({ entry with resolved := true, document := some document } : Entry).Sound :=
      fun _ => rfl
    exact h.put sound hentries

end Registry

end ResourceModel

import ResourceModel.Proofs.Step
import ResourceModel.Store

set_option autoImplicit false

/-! # What a run keeps of the documents

The documents that a run keeps are those that stand in the files, so reading a document answers the
same whether it was read before or not. -/

namespace ResourceModel.Store

open Step (FailsIn Keeps)

/-! ## Rows that are kept -/

section Cache

variable {κ : Type} [BEq κ] [LawfulBEq κ]

/-- Whether what is kept under each key is what a function finds for it. -/
def Caches (find : κ → Except Error (Option Json)) (rows : List (κ × Option Json)) : Prop :=
  ∀ key found, rows.lookup key = some found → find key = .ok found

omit [LawfulBEq κ] in
theorem cached_apply (key : κ) (found : Except Error (Option Json))
    (rows : List (κ × Option Json)) :
    cached key found rows =
      match rows.lookup key, found with
      | some kept, _ => .ok kept rows
      | none, .ok found => .ok found ((key, found) :: rows)
      | none, .error error => .error error rows := by
  unfold cached
  rw [Step.bind_apply, Step.get_apply]
  simp only
  cases rows.lookup key with
  | some kept => rfl
  | none => cases found <;> rfl

omit [LawfulBEq κ] in
/-- What the cache gives is what is found. -/
theorem Caches.eq_of_cached {find : κ → Except Error (Option Json)}
    {rows changed : List (κ × Option Json)} (h : Caches find rows) {key : κ}
    {found : Option Json} (hcached : cached key (find key) rows = .ok found changed) :
    find key = .ok found := by
  rw [cached_apply] at hcached
  cases hkept : rows.lookup key with
  | some kept =>
    rw [hkept] at hcached
    cases hcached
    exact h key found hkept
  | none =>
    rw [hkept] at hcached
    cases hfind : find key with
    | ok document =>
      rw [hfind] at hcached
      cases hcached
      rfl
    | error error => simp [hfind] at hcached

theorem keeps_caches (find : κ → Except Error (Option Json)) (key : κ) :
    Keeps (Caches find) (cached key (find key)) := by
  intro rows h
  have happly := cached_apply key (find key) rows
  cases hkept : rows.lookup key with
  | some kept =>
    rw [hkept] at happly
    rwa [Step.after_of_ok happly]
  | none =>
    cases hfind : find key with
    | error error =>
      rw [hkept, hfind] at happly
      rwa [hfind.symm, hfind, Step.after_of_error happly]
    | ok document =>
      rw [hkept, hfind] at happly
      rw [Step.after_of_ok happly]
      intro other found hfound
      rw [List.lookup_cons] at hfound
      split at hfound
      · next heq =>
        cases hfound
        rw [eq_of_beq heq, hfind]
      · exact h other found hfound

/-- What is found under a key: what is kept there, or else what a function finds. -/
def overlay (rows : List (κ × Option Json)) (find : κ → Except Error (Option Json)) (key : κ) :
    Except Error (Option Json) :=
  match rows.lookup key with
  | some kept => .ok kept
  | none => find key

omit [LawfulBEq κ] in
theorem cached_of_overlay {rows : List (κ × Option Json)} {find : κ → Except Error (Option Json)}
    {key : κ} {found : Option Json} (h : overlay rows find key = .ok found) :
    ∃ changed, cached key (find key) rows = .ok found changed := by
  unfold overlay at h
  rw [cached_apply]
  cases hkept : rows.lookup key with
  | some kept =>
    rw [hkept] at h
    cases h
    exact ⟨rows, rfl⟩
  | none =>
    rw [hkept] at h
    simp only at h
    rw [h]
    exact ⟨_, rfl⟩

/-- Reading answers what is found, and under no key something else is found afterwards. -/
theorem overlay_of_cached {rows changed : List (κ × Option Json)}
    {find : κ → Except Error (Option Json)} {key : κ} {found : Option Json}
    (h : cached key (find key) rows = .ok found changed) :
    overlay rows find key = .ok found ∧ overlay changed find = overlay rows find := by
  rw [cached_apply] at h
  unfold overlay
  cases hkept : rows.lookup key with
  | some kept =>
    rw [hkept] at h
    cases h
    exact ⟨rfl, rfl⟩
  | none =>
    rw [hkept] at h
    cases hfind : find key with
    | error error => simp [hfind] at h
    | ok document =>
      rw [hfind] at h
      cases h
      refine ⟨rfl, ?_⟩
      funext other
      -- only the row of the key is new, and it holds what is found there anyway
      by_cases hother : other = key
      · subst hother
        simp [hkept, hfind]
      · have hne : (other == key) = false := beq_eq_false_iff_ne.2 hother
        rw [List.lookup_cons, hne]

omit [LawfulBEq κ] in
theorem answer_cached (rows : List (κ × Option Json)) (find : κ → Except Error (Option Json))
    (key : κ) : (cached key (find key)).answer rows = overlay rows find key := by
  unfold overlay
  have happly := cached_apply key (find key) rows
  cases hkept : rows.lookup key with
  | some kept =>
    rw [hkept] at happly
    exact Step.answer_of_ok happly
  | none =>
    rw [hkept] at happly
    cases hfind : find key with
    | ok found =>
      rw [hfind] at happly
      exact Step.answer_of_ok happly
    | error error =>
      rw [hfind] at happly
      exact Step.answer_of_error happly

omit [LawfulBEq κ] in
/-- Where what is kept is what is found, keeping it makes no difference. -/
theorem Caches.overlay_eq {find : κ → Except Error (Option Json)}
    {rows : List (κ × Option Json)} (h : Caches find rows) : overlay rows find = find := by
  funext key
  unfold overlay
  split
  · next kept hkept => exact (h key kept hkept).symm
  · rfl

omit [LawfulBEq κ] in
/-- A reading that fails keeps nothing. -/
theorem cached_eq_error {key : κ} {found : Except Error (Option Json)}
    {rows changed : List (κ × Option Json)} {error : Error}
    (h : cached key found rows = .error error changed) : changed = rows := by
  rw [cached_apply] at h
  split at h
  · cases h
  · cases h
  · cases h
    rfl

/-- Reading makes no difference to what is found. -/
theorem keeps_overlay_cached (find : κ → Except Error (Option Json)) (key : κ)
    (found : κ → Except Error (Option Json)) :
    Keeps (fun rows => overlay rows find = found) (cached key (find key)) := by
  intro rows h
  cases hcached : cached key (find key) rows with
  | ok answer changed => rw [Step.after_of_ok hcached, (overlay_of_cached hcached).2, h]
  | error error changed => rw [Step.after_of_error hcached, cached_eq_error hcached, h]

/-- Reading takes no row away. -/
theorem keeps_lookup_cached {key other : κ} {found : Except Error (Option Json)}
    {kept : Option Json} :
    Keeps (fun rows => rows.lookup other = some kept) (cached key found) := by
  intro rows h
  have happly := cached_apply key found rows
  cases hkey : rows.lookup key with
  | some held =>
    rw [hkey] at happly
    rwa [Step.after_of_ok happly]
  | none =>
    cases found with
    | error error =>
      rw [hkey] at happly
      rwa [Step.after_of_error happly]
    | ok document =>
      rw [hkey] at happly
      rw [Step.after_of_ok happly, List.lookup_cons]
      split
      · next heq =>
        -- nothing was kept under the new key before
        rw [eq_of_beq heq, hkey] at h
        cases h
      · exact h

/-- What was read is kept. -/
theorem lookup_of_cached {key : κ} {found : Except Error (Option Json)}
    {rows changed : List (κ × Option Json)} {answer : Option Json}
    (h : cached key found rows = .ok answer changed) : changed.lookup key = some answer := by
  rw [cached_apply] at h
  split at h
  · next kept _ hkept =>
    cases h
    exact hkept
  · cases h
    simp
  · cases h

end Cache

/-! ## Documents -/

/-- Whether what is kept of the documents is what stands in the files. -/
structure Faithful (assets : Assets) (store : Store) : Prop where
  documents : Caches (fun key => assets.document? key.1 key.2) store.documents
  extensions : Caches assets.extensionOfStem? store.extensions

variable {assets : Assets}

theorem faithful_empty : empty.Faithful assets :=
  ⟨fun _ _ h => by simp [empty] at h, fun _ _ h => by simp [empty] at h⟩

theorem keeps_faithful_load (standard : Standard) (stem : String) :
    Keeps (Faithful assets) (load assets standard stem) := by
  have kept := keeps_caches (fun key => assets.document? key.1 key.2) (standard, stem)
  unfold load
  exact kept.onPart (fun _ h => h.documents) fun _ _ h rows => ⟨rows, h.extensions⟩

theorem keeps_faithful_loadExtension (name tag : String) :
    Keeps (Faithful assets) (loadExtension assets name tag) := by
  have kept := keeps_caches assets.extensionOfStem? (Assets.extensionStem name tag)
  unfold loadExtension
  exact kept.onPart (fun _ h => h.extensions) fun _ _ h rows => ⟨h.documents, rows⟩

/-- A document that is read from a bundle is what stands in the files. -/
theorem Faithful.document?_of_load {store changed : Store} (h : store.Faithful assets)
    {standard : Standard} {stem : String} {found : Option Json}
    (hload : load assets standard stem store = .ok found changed) :
    assets.document? standard stem = .ok found := by
  obtain ⟨rows, hcached, _⟩ := Step.onPart_eq_ok.1 hload
  have heq : (fun key : Standard × String => assets.document? key.1 key.2) (standard, stem) =
      .ok found := h.documents.eq_of_cached hcached
  exact heq

/-- An extension document that is read is what stands in the files. -/
theorem Faithful.extension?_of_load {store changed : Store} (h : store.Faithful assets)
    {name tag : String} {found : Option Json}
    (hload : loadExtension assets name tag store = .ok found changed) :
    assets.extension? name tag = .ok found := by
  obtain ⟨rows, hcached, _⟩ := Step.onPart_eq_ok.1 hload
  exact h.extensions.eq_of_cached hcached

theorem Faithful.document?_of_require {store changed : Store} (h : store.Faithful assets)
    {standard : Standard} {stem : String} {document : Json}
    (hrequire : require assets standard stem store = .ok document changed) :
    assets.document? standard stem = .ok (some document) := by
  obtain ⟨found, middle, hload, hfound⟩ := Step.bind_eq_ok.1 hrequire
  obtain ⟨rfl, _⟩ := Step.require_eq_ok.1 hfound
  exact h.document?_of_load hload

theorem Faithful.extension?_of_require {store changed : Store} (h : store.Faithful assets)
    {name tag : String} {document : Json}
    (hrequire : requireExtension assets name tag store = .ok document changed) :
    assets.extension? name tag = .ok (some document) := by
  obtain ⟨found, middle, hload, hfound⟩ := Step.bind_eq_ok.1 hrequire
  obtain ⟨rfl, _⟩ := Step.require_eq_ok.1 hfound
  exact h.extension?_of_load hload

theorem Faithful.answer_loadExtension {store : Store} (h : store.Faithful assets)
    (name tag : String) :
    (loadExtension assets name tag).answer store = assets.extension? name tag := by
  rw [loadExtension, Step.answer_onPart]
  refine (answer_cached store.extensions assets.extensionOfStem? _).trans ?_
  rw [h.extensions.overlay_eq]
  rfl

/-! ## What reading keeps -/

section Keeping

variable {holds : Store → Prop}
  (load : ∀ standard stem, Keeps holds (Store.load assets standard stem))

include load

theorem keeps_require (standard : Standard) (stem : String) :
    Keeps holds (Store.require assets standard stem) :=
  (load standard stem).bind fun _ => .require _ _

theorem keeps_target (reference : Reference) : Keeps holds (Store.target assets reference) := by
  unfold Store.target
  split
  · exact .pure _
  · refine Keeps.get.bind fun store => ?_
    split
    · exact .pure _
    · exact load _ _

end Keeping

/-! ## How reading fails -/

/-- The errors of a file that is there but cannot be read. -/
inductive Unreadable : Error → Prop where
  | notText : Unreadable .notText
  | corrupted (schema : String) (damage : Damage) : Unreadable (.corrupted schema damage)

theorem unreadable_of_readJson {path : Path} {stem : String} {error : Error}
    (h : (assets.readJson path stem).map some = .error error) : Unreadable error := by
  unfold Assets.readJson at h
  split at h
  · cases h
    exact .notText
  · split at h
    · cases h
    · cases h
      exact .corrupted _ _

theorem failsIn_cached {κ : Type} [BEq κ] {key : κ} {found : Except Error (Option Json)}
    {errors : Error → Prop} (h : ∀ error, found = .error error → errors error) :
    FailsIn errors (cached key found) := by
  refine FailsIn.get.bind fun rows => ?_
  split
  · exact .pure _
  · exact (FailsIn.ofExcept h).bind fun _ => (FailsIn.modify _).bind fun _ => .pure _

theorem failsIn_load (standard : Standard) (stem : String) :
    FailsIn Unreadable (load assets standard stem) := by
  refine FailsIn.onPart (failsIn_cached fun error h => ?_)
  unfold Assets.document? at h
  split at h
  · exact unreadable_of_readJson h
  · cases h

theorem failsIn_loadExtension (name tag : String) :
    FailsIn Unreadable (loadExtension assets name tag) := by
  refine FailsIn.onPart (failsIn_cached fun error h => ?_)
  unfold Assets.extension? Assets.extensionOfStem? at h
  split at h
  · exact unreadable_of_readJson h
  · cases h

/-! ## What is found -/

/-- The schema document of a stem: the one that is kept, or else the one in the files. -/
def document? (assets : Assets) (store : Store) (standard : Standard) (stem : String) :
    Except Error (Option Json) :=
  overlay store.documents (fun key => assets.document? key.1 key.2) (standard, stem)

/-- The document that a reference names: the one that is bound to its stem, or else the schema
    document of its standard. -/
def named? (assets : Assets) (store : Store) (reference : Reference) :
    Except Error (Option Json) :=
  match reference.stem? with
  | none => .ok none
  | some stem =>
    match Table.get? store.bound stem with
    | some document => .ok (some document)
    | none => store.document? assets reference.standard stem

theorem named?_of_isLocal {store : Store} {reference : Reference} (h : reference.isLocal = true) :
    store.named? assets reference = .ok none := by
  unfold named?
  rw [Option.isNone_iff_eq_none.1 h]

theorem named?_congr {store : Store} {reference other : Reference}
    (hstem : reference.stem? = other.stem?) (hstandard : reference.standard = other.standard) :
    store.named? assets reference = store.named? assets other := by
  unfold named?
  rw [hstem, hstandard]

/-- Whether a reference names a document that is neither bound nor in its bundle. -/
structure Lacks (assets : Assets) (store : Store) (reference : Reference) : Prop where
  names : reference.isLocal = false
  unbound : ∀ stem, reference.stem? = some stem → Table.get? store.bound stem = none
  unfound : ∀ stem, reference.stem? = some stem →
    store.document? assets reference.standard stem = .ok none

/-- Whether another store finds the same documents. -/
structure Agrees (assets : Assets) (store other : Store) : Prop where
  documents : other.document? assets = store.document? assets
  bound : other.bound = store.bound

theorem Agrees.refl (assets : Assets) (store : Store) : store.Agrees assets store :=
  ⟨rfl, rfl⟩

theorem Agrees.trans {first second third : Store} (h : first.Agrees assets second)
    (h' : second.Agrees assets third) : first.Agrees assets third :=
  ⟨h'.documents.trans h.documents, h'.bound.trans h.bound⟩

theorem Agrees.named?_eq {store other : Store} (h : store.Agrees assets other)
    (reference : Reference) : other.named? assets reference = store.named? assets reference := by
  unfold named?
  rw [h.bound, h.documents]

theorem load_of_document? {store : Store} {standard : Standard} {stem : String}
    {found : Option Json} (h : store.document? assets standard stem = .ok found) :
    ∃ changed, load assets standard stem store = .ok found changed := by
  obtain ⟨rows, hcached⟩ := cached_of_overlay h
  exact ⟨_, Step.onPart_eq_ok.2 ⟨rows, hcached, rfl⟩⟩

/-- Reading a schema document answers what is found, and changes nothing of it. -/
theorem document?_of_load {store changed : Store} {standard : Standard} {stem : String}
    {found : Option Json} (h : load assets standard stem store = .ok found changed) :
    store.document? assets standard stem = .ok found ∧ store.Agrees assets changed := by
  obtain ⟨rows, hcached, rfl⟩ := Step.onPart_eq_ok.1 h
  let find : Standard × String → Except Error (Option Json) := fun key =>
    assets.document? key.1 key.2
  have hcached : cached (standard, stem) (find (standard, stem)) store.documents =
      .ok found rows := hcached
  obtain ⟨hfound, hsame⟩ := overlay_of_cached hcached
  refine ⟨hfound, ⟨?_, rfl⟩⟩
  funext standard' stem'
  exact congrFun hsame (standard', stem')

theorem target_of_named? {store : Store} {reference : Reference} {found : Option Json}
    (h : store.named? assets reference = .ok found) :
    ∃ changed, target assets reference store = .ok found changed := by
  unfold named? at h
  unfold target
  cases hstem : reference.stem? with
  | none =>
    rw [hstem] at h
    cases h
    exact ⟨store, rfl⟩
  | some stem =>
    rw [hstem] at h
    simp only [Step.bind_apply, Step.get_apply] at h ⊢
    cases hbound : Table.get? store.bound stem with
    | some document =>
      rw [hbound] at h
      cases h
      exact ⟨store, rfl⟩
    | none =>
      rw [hbound] at h
      exact load_of_document? h

/-- Looking up what a reference names answers what is found, and changes nothing of it. -/
theorem named?_of_target {store changed : Store} {reference : Reference} {found : Option Json}
    (h : target assets reference store = .ok found changed) :
    store.named? assets reference = .ok found ∧ store.Agrees assets changed := by
  unfold target at h
  unfold named?
  cases hstem : reference.stem? with
  | none =>
    rw [hstem] at h
    cases h
    exact ⟨rfl, .refl assets store⟩
  | some stem =>
    rw [hstem] at h
    simp only [Step.bind_apply, Step.get_apply] at h ⊢
    cases hbound : Table.get? store.bound stem with
    | some document =>
      rw [hbound] at h
      cases h
      exact ⟨rfl, .refl assets store⟩
    | none =>
      rw [hbound] at h
      exact document?_of_load h

/-! ### Answers -/

theorem answer_load (store : Store) (standard : Standard) (stem : String) :
    (load assets standard stem).answer store = store.document? assets standard stem := by
  rw [load, Step.answer_onPart]
  exact answer_cached store.documents (fun key => assets.document? key.1 key.2) (standard, stem)

theorem answer_target (store : Store) (reference : Reference) :
    (target assets reference).answer store = store.named? assets reference := by
  unfold target named?
  cases hstem : reference.stem? with
  | none => rfl
  | some stem =>
    simp only
    rw [Step.answer_bind, Step.get_apply]
    simp only
    cases hbound : Table.get? store.bound stem with
    | some document => rfl
    | none => exact answer_load store reference.standard stem

/-- Where what is kept is what stands in the files, only the files count. -/
theorem Faithful.document?_eq {store : Store} (h : store.Faithful assets) :
    store.document? assets = assets.document? := by
  funext standard stem
  exact congrFun h.documents.overlay_eq (standard, stem)

/-- Nothing is found for a reference that names a document exactly if the store lacks it. -/
theorem named?_eq_none_iff {store : Store} {reference : Reference}
    (names : reference.isLocal = false) :
    store.named? assets reference = .ok none ↔ store.Lacks assets reference := by
  unfold named?
  cases hstem : reference.stem? with
  | none => simp [Reference.isLocal, hstem] at names
  | some stem =>
    cases hbound : Table.get? store.bound stem with
    | some document =>
      constructor
      · intro h
        simp [hbound] at h
      · intro h
        simp [h.unbound stem hstem] at hbound
    | none =>
      simp only [hbound]
      constructor
      · intro h
        refine ⟨names, fun other hother => ?_, fun other hother => ?_⟩
        · obtain rfl := Option.some.inj (hstem.symm.trans hother)
          exact hbound
        · obtain rfl := Option.some.inj (hstem.symm.trans hother)
          exact h
      · intro h
        exact h.unfound stem hstem

/-! ## Small bundles -/

/-- The files of a bundle with the given schema documents, where the standard layout has it. -/
def bundleFiles (documents : List (String × String)) : FileTree :=
  let dir : Place := ["assets", "schemas", "bundle", "json-schema"]
  ⟨[(dir.take 1, .directory), (dir.take 2, .directory), (dir.take 3, .directory),
    (dir, .directory)] ++
    documents.map fun row => (dir ++ [row.1], .file row.2.toUTF8), []⟩

end ResourceModel.Store

import ResourceModel.Proofs.Resolution.Limit

set_option autoImplicit false

/-! # How far a chase for a document goes

A trail goes from a fragment into the document that its reference names, passes over the keys of the
pointer that are missing there, and goes on from what it has come to. Trails from one fragment differ
in nothing but their length. A chase for a document goes along the longest trail that its guards let
pass and answers the last document of it, whatever keeps it from going further; it fails only where
what it meets next cannot be read. -/

namespace ResourceModel.Resolution

variable {assets : Assets} {store : Store}

/-! ## Trails -/

/-- The walks along references that name documents, from a fragment to what they come to. -/
inductive Trail (assets : Assets) (store : Store) : Json → List Walk → Json → Prop where
  | here (fragment : Json) : Trail assets store fragment [] fragment
  | onward {fragment document last : Json} {reference : Reference} {rest : List Walk}
      (carries : Carries fragment reference)
      (names : store.named? assets reference = .ok (some document))
      (further : Trail assets store (Pointer.lenient document reference.pointer) rest last) :
      Trail assets store fragment (⟨reference, none, document⟩ :: rest) last

namespace Trail

theorem snoc {start fragment document : Json} {walks : List Walk} {reference : Reference}
    (h : Trail assets store start walks fragment) (carries : Carries fragment reference)
    (names : store.named? assets reference = .ok (some document)) :
    Trail assets store start (walks ++ [⟨reference, none, document⟩])
      (Pointer.lenient document reference.pointer) := by
  induction h with
  | here => exact .onward carries names (.here _)
  | onward carries' names' _ ih => exact .onward carries' names' (ih carries)

/-- Of two trails from a fragment one goes on where the other one ends. -/
theorem comparable {start last other : Json} {walks others : List Walk}
    (h : Trail assets store start walks last) (h' : Trail assets store start others other) :
    (∃ rest, others = walks ++ rest ∧ Trail assets store last rest other) ∨
      ∃ rest, walks = others ++ rest ∧ Trail assets store other rest last := by
  induction h generalizing others with
  | here => exact Or.inl ⟨others, rfl, h'⟩
  | @onward fragment document last reference rest carries names further ih =>
    cases h' with
    | here => exact Or.inr ⟨_, rfl, .onward carries names further⟩
    | onward carries' names' further' =>
      obtain rfl := carries.unique carries'
      obtain rfl := Option.some.inj (Except.ok.inj (names.symm.trans names'))
      refine (ih further').imp ?_ ?_
      · rintro ⟨rest, rfl, hrest⟩
        exact ⟨rest, rfl, hrest⟩
      · rintro ⟨rest, rfl, hrest⟩
        exact ⟨rest, rfl, hrest⟩

end Trail

/-! ## The guards -/

/-- Whether a chase for a document that has gone along walks tries a reference that it meets then:
    hops are left, the reference does not point at an id unless it is the first one, and its hop is
    new. -/
structure Tries (limit : Nat) (walks : List Walk) (reference : Reference) : Prop where
  left : walks.length < limit
  direct : walks = [] ∨ reference.isIdRef = false
  fresh : Hop.along reference none ∉ walks.map Walk.hop

theorem Guarded.tries {limit : Nat} {walks rest : List Walk} {reference : Reference}
    {document : Json} (h : Guarded (walks ++ ⟨reference, none, document⟩ :: rest))
    (short : (walks ++ ⟨reference, none, document⟩ :: rest).length ≤ limit) :
    Tries limit walks reference where
  left := by
    rw [List.length_append, List.length_cons] at short
    omega
  direct := by
    by_cases hwalks : walks = []
    · exact Or.inl hwalks
    · refine Or.inr (h.direct ⟨reference, none, document⟩ ?_)
      rw [List.tail_append_of_ne_nil hwalks]
      simp
  fresh := by
    have hfresh := h.fresh
    rw [List.map_append, List.map_cons] at hfresh
    exact fun hmem => List.disjoint_of_nodup_append hfresh hmem List.mem_cons_self

/-- Whether what a chase meets at the end of a trail can be read: a reference there parses, and if the
    chase tries it, there is no error in looking up the document that it names. -/
def Settled (assets : Assets) (store : Store) (limit : Nat) (walks : List Walk) (last : Json) :
    Prop :=
  ∀ raw, Fragment.reference? last = some raw →
    ∃ reference, Reference.parse raw = .ok reference ∧
      (Tries limit walks reference → ∃ found, store.named? assets reference = .ok found)

/-- Whether a chase does not go on from the end of a trail. -/
def Ends (assets : Assets) (store : Store) (limit : Nat) (walks : List Walk) (last : Json) : Prop :=
  ∀ reference document, Carries last reference →
    store.named? assets reference = .ok (some document) → ¬ Tries limit walks reference

/-- A trail that the guards let pass, and from whose end the chase does not go on. -/
structure Longest (assets : Assets) (store : Store) (limit : Nat) (start : Json)
    (walks : List Walk) (last : Json) : Prop where
  trail : Trail assets store start walks last
  guarded : Guarded walks
  short : walks.length ≤ limit
  ends : Ends assets store limit walks last

section AtReference

variable {limit : Nat} {walks : List Walk} {last : Json} {reference : Reference}

theorem settled_iff_of_carries (carries : Carries last reference) :
    Settled assets store limit walks last ↔
      (Tries limit walks reference → ∃ found, store.named? assets reference = .ok found) := by
  constructor
  · intro settled
    obtain ⟨raw, hraw, hparse⟩ := carries
    obtain ⟨other, hother, h⟩ := settled raw hraw
    obtain rfl := Except.ok.inj (hother.symm.trans hparse)
    exact h
  · intro h raw hraw
    obtain ⟨raw', hraw', hparse⟩ := carries
    obtain rfl := Option.some.inj (hraw'.symm.trans hraw)
    exact ⟨reference, hparse, h⟩

theorem ends_of_carries (carries : Carries last reference)
    (h : ∀ document, store.named? assets reference = .ok (some document) →
      ¬ Tries limit walks reference) : Ends assets store limit walks last := by
  intro other document hother hnamed
  obtain rfl := carries.unique hother
  exact h document hnamed

/-- Where a chase does not try the reference that it meets, it stops well. -/
theorem settled_and_ends_of_not_tries (carries : Carries last reference)
    (h : ¬ Tries limit walks reference) :
    Settled assets store limit walks last ∧ Ends assets store limit walks last :=
  ⟨(settled_iff_of_carries carries).2 fun tries => absurd tries h,
    ends_of_carries carries fun _ _ => h⟩

/-- Where the reference that a chase meets names no document that is there, it stops well. -/
theorem settled_and_ends_of_unnamed (carries : Carries last reference)
    (h : store.named? assets reference = .ok none) :
    Settled assets store limit walks last ∧ Ends assets store limit walks last := by
  refine ⟨(settled_iff_of_carries carries).2 fun _ => ⟨none, h⟩, ends_of_carries carries ?_⟩
  intro document hnamed
  cases h.symm.trans hnamed

/-- Where a chase tries the reference that it meets and the document cannot be read, it breaks off. -/
theorem unsettled_and_ends_of_unreadable {error : Error} (carries : Carries last reference)
    (tries : Tries limit walks reference) (h : store.named? assets reference = .error error) :
    ¬ Settled assets store limit walks last ∧ Ends assets store limit walks last := by
  refine ⟨fun settled => ?_, ends_of_carries carries ?_⟩
  · obtain ⟨found, hfound⟩ := (settled_iff_of_carries carries).1 settled tries
    cases h.symm.trans hfound
  · intro document hnamed
    cases h.symm.trans hnamed

/-- Where there is no reference, a chase stops well. -/
theorem settled_and_ends_of_bare (h : Fragment.reference? last = none) :
    Settled assets store limit walks last ∧ Ends assets store limit walks last := by
  constructor
  · intro raw hraw
    cases h.symm.trans hraw
  · rintro reference _ ⟨raw, hraw, _⟩
    cases h.symm.trans hraw

/-- Where the reference that a chase meets is malformed, it breaks off. -/
theorem unsettled_and_ends_of_malformed {raw : String} {error : Error}
    (h : Fragment.reference? last = some raw) (hparse : Reference.parse raw = .error error) :
    ¬ Settled assets store limit walks last ∧ Ends assets store limit walks last := by
  constructor
  · intro settled
    obtain ⟨_, hparsed, _⟩ := settled raw h
    cases hparse.symm.trans hparsed
  · rintro reference _ ⟨other, hother, hparsed⟩
    obtain rfl := Option.some.inj (h.symm.trans hother)
    cases hparse.symm.trans hparsed

end AtReference

/-- Whether everything can be read that a chase meets along the trails that the guards let pass. -/
def Legible (assets : Assets) (store : Store) (limit : Nat) (start : Json) : Prop :=
  ∀ walks last, Trail assets store start walks last → Guarded walks → walks.length ≤ limit →
    Settled assets store limit walks last

namespace Longest

variable {limit : Nat} {start last : Json} {walks : List Walk}

/-- Every trail that the guards let pass is a part of the longest one. -/
theorem isPrefix (h : Longest assets store limit start walks last) {others : List Walk}
    {other : Json} (trail : Trail assets store start others other) (guarded : Guarded others)
    (short : others.length ≤ limit) : others <+: walks := by
  rcases h.trail.comparable trail with ⟨rest, rfl, further⟩ | ⟨rest, rfl, _⟩
  · cases further with
    | here => simp
    | onward carries names _ => exact absurd (guarded.tries short) (h.ends _ _ carries names)
  · exact List.prefix_append others rest

/-- Whatever a chase meets before the end of the longest trail can be read, since it goes on. -/
theorem legible_iff (h : Longest assets store limit start walks last) :
    Legible assets store limit start ↔ Settled assets store limit walks last := by
  refine ⟨fun legible => legible walks last h.trail h.guarded h.short, fun settled => ?_⟩
  intro others other trail guarded short raw hraw
  rcases trail.comparable h.trail with ⟨rest, heq, further⟩ | ⟨rest, rfl, further⟩
  · cases further with
    | here =>
      rw [List.append_nil] at heq
      exact heq ▸ settled raw hraw
    | onward carries names _ =>
      obtain ⟨raw', hraw', hparse⟩ := carries
      obtain rfl := Option.some.inj (hraw.symm.trans hraw')
      exact ⟨_, hparse, fun _ => ⟨_, names⟩⟩
  · cases further with
    | here => simpa using settled raw hraw
    | onward carries names _ => exact absurd (guarded.tries short) (h.ends _ _ carries names)

end Longest

/-! ## The run of a chase -/

/-- What a chase for a document answers that ends with given walks: the last document, if what it
    meets there can be read, or else an error. -/
inductive Arrives (assets : Assets) (store : Store) (limit : Nat) (document : Json)
    (walks : List Walk) (last : Json) : Except Error Json → Prop where
  | settled (h : Settled assets store limit walks last) :
      Arrives assets store limit document walks last (.ok (lastDocument document walks))
  | failed {error : Error} (h : ¬ Settled assets store limit walks last) :
      Arrives assets store limit document walks last (.error error)

theorem arrives_of_settled {limit : Nat} {start last document : Json} {walks : List Walk}
    (trail : Trail assets store start walks last) (guarded : Guarded walks)
    (short : walks.length ≤ limit)
    (h : Settled assets store limit walks last ∧ Ends assets store limit walks last) :
    ∃ all last, Longest assets store limit start all last ∧
      Arrives assets store limit document all last (.ok (lastDocument document walks)) :=
  ⟨walks, last, ⟨trail, guarded, short, h.2⟩, .settled h.1⟩

theorem arrives_of_unsettled {limit : Nat} {start last document : Json} {walks : List Walk}
    {error : Error} (trail : Trail assets store start walks last) (guarded : Guarded walks)
    (short : walks.length ≤ limit)
    (h : ¬ Settled assets store limit walks last ∧ Ends assets store limit walks last) :
    ∃ all last, Longest assets store limit start all last ∧
      Arrives assets store limit document all last (.error error) :=
  ⟨walks, last, ⟨trail, guarded, short, h.2⟩, .failed h.1⟩

theorem lastDocument_snoc (document : Json) (walks : List Walk) (walk : Walk) :
    lastDocument document (walks ++ [walk]) = walk.document := by
  simp [lastDocument]

/-- What a chase for a document answers that has found one: this one, or what it answers from the
    reference at which it goes on. -/
def onwardFrom (found : Json) (reference : Reference) (further : Reference → Except Error Json) :
    Except Error Json :=
  match continuation? found reference with
  | .error error => .error error
  | .ok none => .ok found
  | .ok (some next) => if next.isIdRef || next.isLocal then .ok found else further next

theorem answer_followDocuments_of_fresh {hops : Nat} {taken : List Hop} {reference : Reference}
    (fresh : Hop.along reference none ∉ taken) (document : Json) (current : Store) :
    (followDocuments assets (hops + 1) taken reference document).answer current =
      match Store.target assets reference current with
      | .error error _ => .error error
      | .ok none _ => .ok document
      | .ok (some found) changed => onwardFrom found reference fun next =>
          (followDocuments assets hops (Hop.along reference none :: taken) next found).answer
            changed := by
  simp only [followDocuments, if_neg fresh]
  rw [Step.answer_bind]
  cases Store.target assets reference current with
  | error error changed => rfl
  | ok found changed =>
    cases found with
    | none => rfl
    | some found =>
      simp only [onwardFrom]
      rw [Step.answer_bind]
      cases continuation? found reference with
      | error error => rfl
      | ok next =>
        cases next with
        | none => rfl
        | some next =>
          simp only [Step.ofExcept, Step.pure_apply]
          split <;> rfl

/-- A chase that has found the document of its last reference ends there, or goes on if it should. -/
theorem arrives_of_onwardFrom {limit : Nat} {start document found : Json} {reference : Reference}
    {walks : List Walk} {further : Reference → Except Error Json}
    (trail : Trail assets store start walks (Pointer.lenient found reference.pointer))
    (guarded : Guarded walks) (moved : walks ≠ []) (short : walks.length ≤ limit)
    (hlast : lastDocument document walks = found)
    (onward : ∀ next, Carries (Pointer.lenient found reference.pointer) next →
      next.isIdRef = false → ∃ all last, Longest assets store limit start all last ∧
        Arrives assets store limit document all last (further next)) :
    ∃ all last, Longest assets store limit start all last ∧
      Arrives assets store limit document all last (onwardFrom found reference further) := by
  -- a chase that stops well here answers the document that it has found
  have stays : Settled assets store limit walks (Pointer.lenient found reference.pointer) ∧
      Ends assets store limit walks (Pointer.lenient found reference.pointer) →
      ∃ all last, Longest assets store limit start all last ∧
        Arrives assets store limit document all last (.ok found) := by
    intro h
    rw [← hlast]
    exact arrives_of_settled trail guarded short h
  unfold onwardFrom continuation?
  cases hraw : Fragment.reference? (Pointer.lenient found reference.pointer) with
  | none => exact stays (settled_and_ends_of_bare hraw)
  | some raw =>
    cases hparse : Reference.parse raw with
    | error error =>
      simp only [hparse, Except.map]
      exact arrives_of_unsettled trail guarded short (unsettled_and_ends_of_malformed hraw hparse)
    | ok next =>
      have carries : Carries (Pointer.lenient found reference.pointer) next := ⟨raw, hraw, hparse⟩
      simp only [hparse, Except.map]
      -- an id or a reference into the same document keeps the chase where it is
      cases hid : next.isIdRef with
      | true =>
        have hstay : ¬ Tries limit walks next := by
          rintro ⟨-, direct, -⟩
          rcases direct with hnone | hdirect
          · exact moved hnone
          · cases hid.symm.trans hdirect
        exact stays (settled_and_ends_of_not_tries carries hstay)
      | false =>
        cases hlocal : next.isLocal with
        | true =>
          exact stays (settled_and_ends_of_unnamed carries (Store.named?_of_isLocal hlocal))
        | false => exact onward next carries hid

/-- A chase that has gone along a trail goes to the end of the longest one, if the hops that it has
    taken are those of the trail. -/
theorem arrives_of_followDocuments {limit hops : Nat} {taken : List Hop}
    {start fragment document : Json} {reference : Reference} {walks : List Walk} {current : Store}
    (hlimit : walks.length + hops = limit) (agrees : store.Agrees assets current)
    (trail : Trail assets store start walks fragment) (guarded : Guarded walks)
    (htaken : taken = (walks.map Walk.hop).reverse) (carries : Carries fragment reference)
    (direct : walks = [] ∨ reference.isIdRef = false) :
    ∃ all last, Longest assets store limit start all last ∧
      Arrives assets store limit document all last
        ((followDocuments assets hops taken reference (lastDocument document walks)).answer
          current) := by
  have short : walks.length ≤ limit := by omega
  induction hops generalizing taken fragment reference walks current with
  | zero =>
    have hleft : ¬ Tries limit walks reference := fun h => absurd h.left (by omega)
    exact arrives_of_settled trail guarded short (settled_and_ends_of_not_tries carries hleft)
  | succ hops ih =>
    by_cases hrepeated : Hop.along reference none ∈ taken
    · have hold : ¬ Tries limit walks reference := fun h =>
        h.fresh (by simpa [htaken] using hrepeated)
      simp only [followDocuments, if_pos hrepeated]
      exact arrives_of_settled trail guarded short (settled_and_ends_of_not_tries carries hold)
    · have fresh : Hop.along reference none ∉ walks.map Walk.hop := by
        simpa [htaken] using hrepeated
      have tries : Tries limit walks reference := ⟨by omega, direct, fresh⟩
      rw [answer_followDocuments_of_fresh hrepeated]
      cases htarget : Store.target assets reference current with
      | error error failed =>
        have hnamed := Step.answer_of_error htarget
        rw [Store.answer_target, agrees.named?_eq] at hnamed
        exact arrives_of_unsettled trail guarded short
          (unsettled_and_ends_of_unreadable carries tries hnamed)
      | ok found changed =>
        obtain ⟨hnamed, kept⟩ := Store.named?_of_target htarget
        rw [agrees.named?_eq] at hnamed
        cases found with
        | none =>
          exact arrives_of_settled trail guarded short (settled_and_ends_of_unnamed carries hnamed)
        | some found =>
          -- the trail grows by the walk into the document, and the hops that are left shrink by one
          have trail' := trail.snoc carries hnamed
          have guarded' : Guarded (walks ++ [.mk reference none found]) :=
            guarded.snoc fresh direct
          have hlast : lastDocument document (walks ++ [.mk reference none found]) = found :=
            lastDocument_snoc document walks _
          have hlimit' : (walks ++ [Walk.mk reference none found]).length + hops = limit := by
            rw [List.length_append, List.length_singleton]
            omega
          have htaken' : Hop.along reference none :: taken =
              ((walks ++ [Walk.mk reference none found]).map Walk.hop).reverse := by
            simp [htaken, Walk.hop]
          have short' : (walks ++ [Walk.mk reference none found]).length ≤ limit := by omega
          refine arrives_of_onwardFrom trail' guarded' (by simp) short' hlast ?_
          intro next carries' direct'
          have arrives := ih hlimit' (agrees.trans kept) trail' guarded' htaken' carries'
            (Or.inr direct') short'
          rwa [hlast] at arrives

/-! ## The document of a fragment -/

/-- The document that is answered for a fragment for which none is found: the enclosing one, or the
    fragment itself if it carries a reference and there is no fallback. -/
def origin (fragment enclosing : Json) (fallback : Bool) : Json :=
  if fallback || (Fragment.reference? fragment).isNone then enclosing else fragment

theorem arrives_of_documentOf (positive : 0 < assets.config.limits.referenceHops)
    (fragment enclosing : Json) (fallback : Bool) :
    ∃ walks last, Longest assets store assets.config.limits.referenceHops fragment walks last ∧
      Arrives assets store assets.config.limits.referenceHops (origin fragment enclosing fallback)
        walks last ((documentOf assets fragment (some enclosing) fallback).answer store) := by
  unfold documentOf origin
  cases hraw : Fragment.reference? fragment with
  | none =>
    simp only [Option.isNone_none, Bool.or_true, if_true]
    exact arrives_of_settled (.here _) .nil (Nat.zero_le _) (settled_and_ends_of_bare hraw)
  | some raw =>
    have hops : (assets.config.limits.referenceHops == 0) = false :=
      beq_eq_false_iff_ne.2 (Nat.ne_of_gt positive)
    simp only [Option.isNone_some, hops, Bool.or_false]
    rw [Step.answer_bind]
    cases hparse : Reference.parse raw with
    | error error =>
      exact arrives_of_unsettled (.here _) .nil (Nat.zero_le _)
        (unsettled_and_ends_of_malformed hraw hparse)
    | ok reference =>
      exact arrives_of_followDocuments (Nat.zero_add _) (.refl assets store) (.here fragment) .nil
        rfl ⟨raw, hraw, hparse⟩ (Or.inl rfl)

/-- The document of a fragment is the last one on the longest trail from the fragment that the guards
    let pass: the trail has no more walks than the limit allows, every walk of it leads into a
    document that is there, no reference after the first one points at an id, and no hop is taken
    twice. Without such a document it is the enclosing one, or the fragment itself where a reference
    cannot be followed and there is no fallback. There is an error only where a reference or a
    document that is met on the way cannot be read. -/
theorem documentOf_eq_last_of_longest (assets : Assets)
    (positive : 0 < assets.config.limits.referenceHops) (store : Store)
    (fragment enclosing : Json) (fallback : Bool) :
    let limit := assets.config.limits.referenceHops
    let answer := (documentOf assets fragment (some enclosing) fallback).answer store
    documentOf assets fragment none fallback store = .ok fragment store ∧
      ∃ walks last, Trail assets store fragment walks last ∧ Guarded walks ∧ walks.length ≤ limit ∧
        (∀ others other, Trail assets store fragment others other → Guarded others →
          others.length ≤ limit → others <+: walks) ∧
        (Legible assets store limit fragment →
          answer = .ok (lastDocument (origin fragment enclosing fallback) walks)) ∧
        (¬ Legible assets store limit fragment → ∃ error, answer = .error error) := by
  intro limit answer
  obtain ⟨walks, last, longest, arrives⟩ : ∃ walks last,
      Longest assets store limit fragment walks last ∧
        Arrives assets store limit (origin fragment enclosing fallback) walks last answer :=
    arrives_of_documentOf positive fragment enclosing fallback
  refine ⟨rfl, walks, last, longest.trail, longest.guarded, longest.short,
    fun others other trail guarded short => longest.isPrefix trail guarded short, ?_⟩
  rw [longest.legible_iff]
  clear_value answer
  cases arrives with
  | settled settled => exact ⟨fun _ => rfl, fun unsettled => absurd settled unsettled⟩
  | failed unsettled => exact ⟨fun settled => absurd settled unsettled, fun _ => ⟨_, rfl⟩⟩

/-- Bound documents with a cycle of references: from `A` to `B` and back. -/
def circular : Store where
  documents := []
  extensions := []
  bound :=
    [("A", .object [("definitions", .object [("X", .object
      [("$ref", .string "B.json#/definitions/Y")])])]),
    ("B", .object [("definitions", .object [("Y", .object
      [("$ref", .string "A.json#/definitions/X")])])])]

theorem last_of_circular :
    ∃ walks last, Trail ⟨⟨[], []⟩, {}⟩ circular chainStart walks last ∧ Guarded walks ∧
      ((lastDocument .null walks).get? "definitions").any (·.has "Y") = true := by
  obtain ⟨document, changed, h, hdocument⟩ : ∃ document changed,
      documentOf ⟨⟨[], []⟩, {}⟩ chainStart (some .null) true circular = .ok document changed ∧
        (document.get? "definitions").any (·.has "Y") = true := by decide +kernel
  have hanswer := Step.answer_of_ok h
  obtain ⟨-, walks, last, trail, guarded, -, -, settled, failed⟩ :=
    documentOf_eq_last_of_longest ⟨⟨[], []⟩, {}⟩ (by decide) circular chainStart .null true
  by_cases legible : Legible ⟨⟨[], []⟩, {}⟩ circular 10 chainStart
  · have hlast := Except.ok.inj (hanswer.symm.trans (settled legible))
    rw [hlast] at hdocument
    exact ⟨walks, last, trail, guarded, hdocument⟩
  · obtain ⟨error, herror⟩ := failed legible
    cases hanswer.symm.trans herror

end ResourceModel.Resolution

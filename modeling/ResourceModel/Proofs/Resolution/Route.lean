import ResourceModel.Proofs.Registry.Invariant
import ResourceModel.Proofs.Store

set_option autoImplicit false

/-! # Routes along references

A route goes from a fragment into the document that its reference leads to, to the fragment at the
end of the pointer, and on from there. No guard cuts a route short, so it says where references lead,
not what a chase makes of them. What a single turn of a chase makes of a spot is stated by rules,
`Turns`, which are exact: a turn answers what the rules allow and nothing else. -/

namespace ResourceModel.Resolution

variable {assets : Assets} {store : Store}

/-! ## Where a reference leads -/

/-- Whether a fragment carries a reference. -/
def Carries (fragment : Json) (reference : Reference) : Prop :=
  ∃ raw, Fragment.reference? fragment = some raw ∧ Reference.parse raw = .ok reference

theorem Carries.unique {fragment : Json} {reference other : Reference}
    (h : Carries fragment reference) (h' : Carries fragment other) : reference = other := by
  obtain ⟨raw, hraw, hparse⟩ := h
  obtain ⟨raw', hraw', hparse'⟩ := h'
  obtain rfl := Option.some.inj (hraw.symm.trans hraw')
  exact Except.ok.inj (hparse.symm.trans hparse')

/-- The document that a reference leads into from a document: a reference into the same document
    stays there, another one leads into the document that it names. -/
def led? (assets : Assets) (store : Store) (reference : Reference) (document : Json) :
    Except Error (Option Json) :=
  if reference.isLocal then .ok (some document) else store.named? assets reference

theorem led?_of_agrees {other : Store} (agrees : store.Agrees assets other)
    (reference : Reference) (document : Json) :
    led? assets other reference document = led? assets store reference document := by
  unfold led?
  rw [agrees.named?_eq]

theorem led?_eq_none_iff {reference : Reference} {document : Json} :
    led? assets store reference document = .ok none ↔ store.Lacks assets reference := by
  unfold led?
  by_cases hlocal : reference.isLocal = true
  · rw [if_pos hlocal]
    constructor
    · intro h
      simp at h
    · intro h
      rw [h.names] at hlocal
      simp at hlocal
  · rw [if_neg hlocal]
    exact Store.named?_eq_none_iff (Bool.eq_false_iff.2 hlocal)

theorem targetFrom_of_led? {reference : Reference} {document : Json} {found : Option Json}
    (h : led? assets store reference document = .ok found) :
    ∃ changed, targetFrom assets reference document store = .ok found changed := by
  unfold led? at h
  unfold targetFrom
  by_cases hlocal : reference.isLocal = true
  · rw [if_pos hlocal] at h ⊢
    cases h
    exact ⟨store, rfl⟩
  · rw [if_neg hlocal] at h ⊢
    exact Store.target_of_named? h

theorem led?_of_targetFrom {changed : Store} {reference : Reference} {document : Json}
    {found : Option Json} (h : targetFrom assets reference document store = .ok found changed) :
    led? assets store reference document = .ok found ∧ store.Agrees assets changed := by
  unfold targetFrom at h
  unfold led?
  by_cases hlocal : reference.isLocal = true
  · rw [if_pos hlocal] at h ⊢
    cases h
    exact ⟨rfl, .refl assets store⟩
  · rw [if_neg hlocal] at h ⊢
    exact Store.named?_of_target h

/-! ## Routes -/

/-- Whether a walk is the one along the reference of a spot. -/
structure Opens (assets : Assets) (store : Store) (spot : Spot) (walk : Walk) : Prop where
  carries : Carries spot.fragment walk.reference
  stem : walk.stem = spot.stem
  leads : led? assets store walk.reference spot.document = .ok (some walk.document)

theorem Opens.unique {spot : Spot} {walk other : Walk} (h : Opens assets store spot walk)
    (h' : Opens assets store spot other) : walk = other := by
  obtain ⟨reference, stem, document⟩ := walk
  obtain ⟨reference', stem', document'⟩ := other
  obtain rfl : reference = reference' := h.carries.unique h'.carries
  obtain rfl : stem = stem' := h.stem.trans h'.stem.symm
  have hdocument := h.leads.symm.trans h'.leads
  obtain rfl : document = document' := Option.some.inj (Except.ok.inj hdocument)
  rfl

/-- The walks that lead from a spot to another one, whatever their number. -/
inductive Route (assets : Assets) (store : Store) : Spot → List Walk → Spot → Prop where
  | here (spot : Spot) : Route assets store spot [] spot
  | onward {spot last : Spot} {walk : Walk} {fragment : Json} {rest : List Walk}
      (opens : Opens assets store spot walk) (located : walk.located? = some fragment)
      (further : Route assets store (walk.spot fragment) rest last) :
      Route assets store spot (walk :: rest) last

namespace Route

theorem trans {first middle last : Spot} {walks further : List Walk}
    (h : Route assets store first walks middle) (h' : Route assets store middle further last) :
    Route assets store first (walks ++ further) last := by
  induction h with
  | here => exact h'
  | onward opens located _ ih => exact .onward opens located (ih h')

theorem snoc {first spot : Spot} {walks : List Walk} {walk : Walk} {fragment : Json}
    (h : Route assets store first walks spot) (opens : Opens assets store spot walk)
    (located : walk.located? = some fragment) :
    Route assets store first (walks ++ [walk]) (walk.spot fragment) :=
  h.trans (.onward opens located (.here _))

/-- Only one route leads from a spot to a fragment without a reference. -/
theorem unique {first last other : Spot} {walks walks' : List Walk}
    (h : Route assets store first walks last) (h' : Route assets store first walks' other)
    (bare : Fragment.reference? last.fragment = none)
    (bare' : Fragment.reference? other.fragment = none) : walks = walks' ∧ last = other := by
  induction h generalizing walks' with
  | here =>
    cases h' with
    | here => exact ⟨rfl, rfl⟩
    | onward opens _ _ =>
      obtain ⟨raw, hraw, _⟩ := opens.carries
      simp [bare] at hraw
  | onward opens located _ ih =>
    cases h' with
    | here =>
      obtain ⟨raw, hraw, _⟩ := opens.carries
      simp [bare'] at hraw
    | onward opens' located' further' =>
      obtain rfl := opens.unique opens'
      obtain rfl := Option.some.inj (located.symm.trans located')
      obtain ⟨rfl, hlast⟩ := ih further' bare
      exact ⟨rfl, hlast⟩

/-- A walk of a route comes to a spot from which the route goes on. -/
theorem of_mem {first last : Spot} {walks : List Walk} {walk : Walk}
    (h : Route assets store first walks last) (hmem : walk ∈ walks) :
    ∃ fragment rest, walk.located? = some fragment ∧
      Route assets store (walk.spot fragment) rest last ∧ rest.length < walks.length := by
  induction h with
  | here => simp at hmem
  | @onward spot last head fragment rest opens located further ih =>
    rcases List.mem_cons.1 hmem with rfl | hrest
    · exact ⟨fragment, rest, located, further, by simp⟩
    · obtain ⟨other, rest', hlocated, hfurther, hlength⟩ := ih hrest
      refine ⟨other, rest', hlocated, hfurther, ?_⟩
      simp only [List.length_cons]
      omega

end Route

/-- The walk along the reference of a spot, if there is one. -/
def walkFrom? (assets : Assets) (store : Store) (spot : Spot) : Option Walk :=
  match Fragment.reference? spot.fragment with
  | none => none
  | some raw =>
    match Reference.parse raw with
    | .error _ => none
    | .ok reference =>
      match led? assets store reference spot.document with
      | .ok (some document) => some ⟨reference, spot.stem, document⟩
      | _ => none

theorem opens_of_walkFrom? {spot : Spot} {walk : Walk}
    (h : walkFrom? assets store spot = some walk) : Opens assets store spot walk := by
  unfold walkFrom? at h
  split at h
  · simp at h
  · next raw hraw =>
    split at h
    · simp at h
    · next reference hparse =>
      split at h
      · next document hled =>
        cases h
        exact ⟨⟨raw, hraw, hparse⟩, rfl, hled⟩
      · simp at h

/-- The route from a spot as far as references lead, with at most the given number of walks, and
    where it ends. -/
def routeFrom (assets : Assets) (store : Store) : Nat → Spot → List Walk × Spot
  | 0, spot => ([], spot)
  | more + 1, spot =>
    match walkFrom? assets store spot with
    | none => ([], spot)
    | some walk =>
      match walk.located? with
      | none => ([], spot)
      | some fragment =>
        let further := routeFrom assets store more (walk.spot fragment)
        (walk :: further.1, further.2)

theorem route_routeFrom (more : Nat) (spot : Spot) :
    Route assets store spot (routeFrom assets store more spot).1
      (routeFrom assets store more spot).2 := by
  induction more generalizing spot with
  | zero => exact .here spot
  | succ more ih =>
    unfold routeFrom
    split
    · exact .here spot
    · next walk hwalk =>
      split
      · exact .here spot
      · next fragment hlocated =>
        exact .onward (opens_of_walkFrom? hwalk) hlocated (ih (walk.spot fragment))

/-! ## Turns -/

/-- Whether a chase goes along a reference after the given hops: along the first one always, along
    a later one if it is recursive and the reference does not point at an id. -/
def Goes (recursive : Bool) (taken : List Hop) (reference : Reference) : Prop :=
  taken = [] ∨ recursive = true ∧ reference.isIdRef = false

/-- What a turn makes of a spot. -/
inductive Turns (assets : Assets) (store : Store) (recursive : Bool) (taken : List Hop)
    (spot : Spot) : Turn → Prop where
  | bare (h : Fragment.reference? spot.fragment = none) :
      Turns assets store recursive taken spot (.ended (some spot.fragment))
  | shallow (later : taken ≠ []) (h : recursive = false) :
      Turns assets store recursive taken spot (.ended (some spot.fragment))
  | idRef {reference : Reference} (later : taken ≠ []) (carries : Carries spot.fragment reference)
      (h : reference.isIdRef = true) :
      Turns assets store recursive taken spot (.ended (some spot.fragment))
  | repeated {reference : Reference} (carries : Carries spot.fragment reference)
      (goes : Goes recursive taken reference) (h : Hop.along reference spot.stem ∈ taken) :
      Turns assets store recursive taken spot (.ended none)
  | lost {reference : Reference} (later : taken ≠ []) (carries : Carries spot.fragment reference)
      (goes : Goes recursive taken reference) (fresh : Hop.along reference spot.stem ∉ taken)
      (h : store.Lacks assets reference) :
      Turns assets store recursive taken spot (.ended (some spot.fragment))
  | unfound {reference : Reference} (first : taken = []) (carries : Carries spot.fragment reference)
      (h : store.Lacks assets reference) :
      Turns assets store recursive taken spot (.ended none)
  | walked {walk : Walk} (opens : Opens assets store spot walk)
      (goes : Goes recursive taken walk.reference) (fresh : walk.hop ∉ taken)
      (complete : (Scan.ofDocument assets.config.limits.nestingDepth walk.document).complete) :
      Turns assets store recursive taken spot (.walked walk)

variable {recursive : Bool} {taken : List Hop} {spot : Spot} {session : Session}

/-- A turn walks only along the reference of its spot, if the chase goes there and the hop is new. -/
theorem Turns.opens_of_walked {walk : Walk}
    (h : Turns assets store recursive taken spot (.walked walk)) :
    Opens assets store spot walk ∧ Goes recursive taken walk.reference ∧ walk.hop ∉ taken := by
  cases h with
  | walked opens goes fresh _ => exact ⟨opens, goes, fresh⟩

/-- What a turn does at a reference along which the chase goes. -/
def turnAlong (assets : Assets) (taken : List Hop) (spot : Spot) (reference : Reference) :
    Step Session Turn :=
  if Hop.along reference spot.stem ∈ taken then return .ended none
  else do
    match ← Session.reading (targetFrom assets reference spot.document) with
    | none => return .ended (if taken.isEmpty then none else some spot.fragment)
    | some document =>
      Session.registering
        (Registry.extractDefinitions assets (ownerOf? reference spot.stem) document)
      return .walked ⟨reference, spot.stem, document⟩

theorem turn_of_goes {reference : Reference} (carries : Carries spot.fragment reference)
    (goes : Goes recursive taken reference) :
    turn assets recursive taken spot session = turnAlong assets taken spot reference session := by
  obtain ⟨raw, hcarried, hparse⟩ := carries
  unfold turn
  rw [hcarried]
  have hdeep : (!taken.isEmpty && !recursive) = false := by
    rcases goes with rfl | ⟨rfl, _⟩ <;> simp
  have hid : (!taken.isEmpty && reference.isIdRef) = false := by
    rcases goes with rfl | ⟨_, hid⟩
    · simp
    · simp [hid]
  simp only [hdeep, hid, hparse, Step.ofExcept, pure_bind, Bool.false_eq_true, if_false]
  rfl

theorem reading_of_led? {reference : Reference} {document : Json} {found : Option Json}
    (agrees : store.Agrees assets session.store)
    (h : led? assets store reference document = .ok found) :
    ∃ middle, Session.reading (targetFrom assets reference document) session =
      .ok found middle := by
  rw [← led?_of_agrees agrees] at h
  obtain ⟨changed, hread⟩ := targetFrom_of_led? h
  exact ⟨_, Session.reading_eq_ok.2 ⟨changed, hread, rfl⟩⟩

theorem turns_of_turnAlong {final : Session} {result : Turn} {reference : Reference}
    (agrees : store.Agrees assets session.store) (carries : Carries spot.fragment reference)
    (goes : Goes recursive taken reference)
    (h : turnAlong assets taken spot reference session = .ok result final) :
    Turns assets store recursive taken spot result ∧ store.Agrees assets final.store := by
  unfold turnAlong at h
  by_cases hrepeated : Hop.along reference spot.stem ∈ taken
  · rw [if_pos hrepeated] at h
    cases h
    exact ⟨.repeated carries goes hrepeated, agrees⟩
  · rw [if_neg hrepeated] at h
    obtain ⟨target, _, hreading, hrest⟩ := Step.bind_eq_ok.1 h
    obtain ⟨changed, hread, rfl⟩ := Session.reading_eq_ok.1 hreading
    obtain ⟨hled, kept⟩ := led?_of_targetFrom hread
    rw [led?_of_agrees agrees] at hled
    have agrees : store.Agrees assets changed := agrees.trans kept
    cases target with
    | none =>
      cases hrest
      refine ⟨?_, agrees⟩
      have hlacks := led?_eq_none_iff.1 hled
      by_cases hfirst : taken = []
      · rw [hfirst]
        exact .unfound rfl carries hlacks
      · have hsome : taken.isEmpty = false := by simp [hfirst]
        rw [hsome]
        exact .lost hfirst carries goes hrepeated hlacks
    | some document =>
      obtain ⟨_, _, hscan, hanswer⟩ := Step.bind_eq_ok.1 hrest
      cases hanswer
      obtain ⟨registry, hadd, rfl⟩ := Session.registering_eq_ok.1 hscan
      obtain ⟨complete, rfl⟩ := Registry.addScan_eq_ok.1 hadd
      exact ⟨.walked ⟨carries, rfl, hled⟩ goes hrepeated complete, agrees⟩

/-- A turn that succeeds ends where it is and leaves everything as it was, or goes along the reference
    of its spot. -/
theorem turn_ends_or_goes (store : Store) {final : Session} {result : Turn}
    (h : turn assets recursive taken spot session = .ok result final) :
    (Turns assets store recursive taken spot result ∧ (∃ found, result = .ended found) ∧
        final = session) ∨
      ∃ reference, Carries spot.fragment reference ∧ Goes recursive taken reference ∧
        turnAlong assets taken spot reference session = .ok result final := by
  have hturn := h
  unfold turn at h
  cases hcarried : Fragment.reference? spot.fragment with
  | none =>
    rw [hcarried] at h
    cases h
    exact Or.inl ⟨.bare hcarried, ⟨_, rfl⟩, rfl⟩
  | some raw =>
    rw [hcarried] at h
    simp only at h
    by_cases hshallow : (!taken.isEmpty && !recursive) = true
    · rw [if_pos hshallow] at h
      cases h
      simp only [Bool.and_eq_true, Bool.not_eq_true', List.isEmpty_eq_false_iff] at hshallow
      exact Or.inl ⟨.shallow hshallow.1 hshallow.2, ⟨_, rfl⟩, rfl⟩
    · rw [if_neg hshallow] at h
      obtain ⟨reference, _, hparsed, hrest⟩ := Step.bind_eq_ok.1 h
      obtain ⟨hparse, rfl⟩ := Step.ofExcept_eq_ok.1 hparsed
      have carries : Carries spot.fragment reference := ⟨raw, hcarried, hparse⟩
      by_cases hid : (!taken.isEmpty && reference.isIdRef) = true
      · rw [if_pos hid] at hrest
        cases hrest
        simp only [Bool.and_eq_true, Bool.not_eq_true', List.isEmpty_eq_false_iff] at hid
        exact Or.inl ⟨.idRef hid.1 carries hid.2, ⟨_, rfl⟩, rfl⟩
      · have goes : Goes recursive taken reference := by
          by_cases hfirst : taken = []
          · exact Or.inl hfirst
          · simp only [Bool.and_eq_true, Bool.not_eq_true', List.isEmpty_eq_false_iff, hfirst,
              ne_eq, not_false_eq_true, true_and, Bool.not_eq_false, Bool.not_eq_true] at hshallow hid
            exact Or.inr ⟨hshallow, hid⟩
        rw [turn_of_goes carries goes] at hturn
        exact Or.inr ⟨reference, carries, goes, hturn⟩

/-- A turn that succeeds follows the rules, and afterwards the same documents are found. -/
theorem turns_of_turn {final : Session} {result : Turn} (agrees : store.Agrees assets session.store)
    (h : turn assets recursive taken spot session = .ok result final) :
    Turns assets store recursive taken spot result ∧ store.Agrees assets final.store := by
  rcases turn_ends_or_goes store h with ⟨turns, _, rfl⟩ | ⟨reference, carries, goes, halong⟩
  · exact ⟨turns, agrees⟩
  · exact turns_of_turnAlong agrees carries goes halong

/-- A turn succeeds with what the rules allow. -/
theorem turn_of_turns {result : Turn} (agrees : store.Agrees assets session.store)
    (h : Turns assets store recursive taken spot result) :
    ∃ final, turn assets recursive taken spot session = .ok result final := by
  cases h with
  | bare h =>
    refine ⟨session, ?_⟩
    unfold turn
    rw [h]
    rfl
  | shallow later h =>
    refine ⟨session, ?_⟩
    unfold turn
    cases hcarried : Fragment.reference? spot.fragment with
    | none => rfl
    | some raw => simp [later, h]
  | idRef later carries h =>
    refine ⟨session, ?_⟩
    obtain ⟨raw, hcarried, hparse⟩ := carries
    unfold turn
    cases hrecursive : recursive with
    | false => simp [hcarried, later]
    | true => simp [hcarried, hparse, Step.ofExcept, later, h]
  | repeated carries goes h =>
    refine ⟨session, ?_⟩
    rw [turn_of_goes carries goes, turnAlong, if_pos h]
    rfl
  | lost later carries goes fresh h =>
    obtain ⟨middle, hread⟩ := reading_of_led? agrees (led?_eq_none_iff.2 h)
    refine ⟨middle, ?_⟩
    rw [turn_of_goes carries goes, turnAlong, if_neg fresh, Step.bind_apply, hread]
    simp [later]
  | unfound first carries h =>
    obtain ⟨middle, hread⟩ := reading_of_led? agrees (led?_eq_none_iff.2 h)
    refine ⟨middle, ?_⟩
    rw [turn_of_goes carries (Or.inl first), turnAlong, if_neg (by simp [first]), Step.bind_apply,
      hread]
    simp [first]
  | @walked walk opens goes fresh complete =>
    obtain ⟨middle, hread⟩ := reading_of_led? agrees opens.leads
    rw [Walk.hop, opens.stem] at fresh
    rw [turn_of_goes opens.carries goes, turnAlong, if_neg fresh, Step.bind_apply, hread]
    -- the scan comes to its end, so registering does not fail
    have hscan : ∃ final, Session.registering (Registry.extractDefinitions assets
        (ownerOf? walk.reference spot.stem) walk.document) middle = .ok () final :=
      ⟨_, Session.registering_eq_ok.2 ⟨_, Registry.addScan_eq_ok.2 ⟨complete, rfl⟩, rfl⟩⟩
    obtain ⟨final, hscan⟩ := hscan
    refine ⟨final, Step.bind_eq_ok.2 ⟨(), final, hscan, ?_⟩⟩
    rw [← opens.stem]
    rfl

/-! ## Chases -/

/-- A chase with hops left takes a turn. It ends there, it is cut since the pointer of the walk leads
    astray, or it goes on from the fragment that the walk locates. -/
theorem followFragments_succ_eq_ok {hops : Nat} {final : Session} {found : Option Json} :
    followFragments assets recursive (hops + 1) taken spot session = .ok found final ↔
      turn assets recursive taken spot session = .ok (.ended found) final ∨
      (∃ walk, turn assets recursive taken spot session = .ok (.walked walk) final ∧
        walk.located? = none ∧ found = none) ∨
      ∃ walk fragment middle, turn assets recursive taken spot session = .ok (.walked walk) middle ∧
        walk.located? = some fragment ∧
        followFragments assets recursive hops (walk.hop :: taken) (walk.spot fragment) middle =
          .ok found final := by
  rw [followFragments, Step.bind_eq_ok]
  constructor
  · rintro ⟨result, middle, hturn, hrest⟩
    cases result with
    | ended answer =>
      cases hrest
      exact Or.inl hturn
    | walked walk =>
      cases hlocated : walk.located? with
      | none =>
        simp only [hlocated] at hrest
        cases hrest
        exact Or.inr (Or.inl ⟨walk, hturn, hlocated, rfl⟩)
      | some fragment =>
        simp only [hlocated] at hrest
        exact Or.inr (Or.inr ⟨walk, fragment, middle, hturn, hlocated, hrest⟩)
  · rintro (hturn | ⟨walk, hturn, hlocated, rfl⟩ |
      ⟨walk, fragment, middle, hturn, hlocated, hrest⟩)
    · exact ⟨_, final, hturn, rfl⟩
    · refine ⟨_, final, hturn, ?_⟩
      simp only [hlocated]
      rfl
    · refine ⟨_, middle, hturn, ?_⟩
      simp only [hlocated]
      exact hrest

end ResourceModel.Resolution

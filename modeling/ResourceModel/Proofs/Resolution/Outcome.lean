import ResourceModel.Proofs.Resolution.Route

set_option autoImplicit false

/-! # How a chase comes out

A chase that succeeds has gone along a route. If it answers a fragment, this is the one at the end
of the route, which is shorter than the number of hops that are allowed; if it answers nothing, one
of four things has cut it. The invariant of the loop is that the hops taken so far are those of the
route so far, so the claims about the whole run are read off its last turn. More hops do not change
a fragment that is answered. -/

namespace ResourceModel

namespace Assets

/-- The assets with another limit for the references that are followed. -/
def withReferenceHops (assets : Assets) (hops : Nat) : Assets :=
  { assets with
    config := { assets.config with
      limits := { assets.config.limits with referenceHops := hops } } }

theorem document?_withReferenceHops (assets : Assets) (hops : Nat) :
    (assets.withReferenceHops hops).document? = assets.document? := by
  unfold withReferenceHops
  rfl

theorem entryOf_withReferenceHops (assets : Assets) (hops : Nat) :
    Registry.entryOf (assets.withReferenceHops hops) = Registry.entryOf assets := by
  unfold withReferenceHops
  rfl

end Assets

namespace Resolution

variable {assets : Assets} {store : Store} {recursive : Bool}

/-! ## The ends of a chase -/

/-- Whether the guards of a chase let the walks of a route pass: no hop is taken twice, and no
    reference after the first one points at an id. -/
structure Guarded (walks : List Walk) : Prop where
  fresh : (walks.map Walk.hop).Nodup
  direct : ∀ walk ∈ walks.tail, walk.reference.isIdRef = false

/-- Where a recursive chase comes to rest: at a fragment without a reference, or after at least one
    walk at one whose reference points at an id or names a document that is not there. -/
inductive Rests (assets : Assets) (store : Store) (walks : List Walk) (spot : Spot) : Prop where
  | bare (h : Fragment.reference? spot.fragment = none)
  | idRef {reference : Reference} (moved : walks ≠ []) (carries : Carries spot.fragment reference)
      (h : reference.isIdRef = true)
  | lost {reference : Reference} (moved : walks ≠ []) (carries : Carries spot.fragment reference)
      (h : store.Lacks assets reference)

/-- What cuts a chase: the document of the first reference is not there, a pointer leads astray in
    its document, a hop would be taken twice, or the hops are used up. -/
inductive Cut (assets : Assets) (store : Store) (limit : Nat) (walks : List Walk) (spot : Spot) :
    Prop where
  | unfound {reference : Reference} (first : walks = [])
      (carries : Carries spot.fragment reference) (h : store.Lacks assets reference)
  | astray {walk : Walk} (opens : Opens assets store spot walk) (h : walk.located? = none)
  | repeated {reference : Reference} (carries : Carries spot.fragment reference)
      (h : Hop.along reference spot.stem ∈ walks.map Walk.hop)
  | exhausted (h : walks.length = limit)

/-- How a chase from a spot comes out that is allowed so many hops. -/
inductive ComesOut (assets : Assets) (store : Store) (recursive : Bool) (limit : Nat)
    (start : Spot) : Option Json → Prop where
  | found {walks : List Walk} {last : Spot} (route : Route assets store start walks last)
      (guarded : Guarded walks) (short : walks.length < limit)
      (rests : recursive = true → Rests assets store walks last)
      (once : recursive = false → walks.length ≤ 1) :
      ComesOut assets store recursive limit start (some last.fragment)
  | cut {walks : List Walk} {last : Spot} (route : Route assets store start walks last)
      (guarded : Guarded walks) (cut : Cut assets store limit walks last) :
      ComesOut assets store recursive limit start none

/-! ## The run of a chase -/

theorem Guarded.nil : Guarded [] :=
  ⟨List.nodup_nil, fun _ h => by simp at h⟩

theorem Guarded.snoc {walks : List Walk} {walk : Walk} (h : Guarded walks)
    (fresh : walk.hop ∉ walks.map Walk.hop)
    (direct : walks = [] ∨ walk.reference.isIdRef = false) : Guarded (walks ++ [walk]) := by
  refine ⟨?_, fun other hother => ?_⟩
  · rw [List.map_append, List.map_singleton]
    refine List.nodup_append.2 ⟨h.fresh, by simp, ?_⟩
    intro hop hhop other hother heq
    rw [List.mem_singleton] at hother
    rw [heq, hother] at hhop
    exact fresh hhop
  · by_cases hwalks : walks = []
    · simp [hwalks] at hother
    · rw [List.tail_append_of_ne_nil hwalks, List.mem_append, List.mem_singleton] at hother
      rcases hother with hother | rfl
      · exact h.direct other hother
      · exact direct.resolve_left hwalks

/-- A turn that ends a chase, after a route and the hops of this route, shows how the chase comes
    out. -/
theorem comesOut_of_ended {limit : Nat} {start spot : Spot} {walks : List Walk}
    {found : Option Json} (route : Route assets store start walks spot) (guarded : Guarded walks)
    (short : walks.length < limit) (once : recursive = false → walks.length ≤ 1)
    (turns : Turns assets store recursive (walks.map Walk.hop).reverse spot (.ended found)) :
    ComesOut assets store recursive limit start found := by
  have moved : (walks.map Walk.hop).reverse ≠ [] → walks ≠ [] := by simp
  cases turns with
  | bare hbare => exact .found route guarded short (fun _ => .bare hbare) once
  | shallow later hshallow =>
    refine .found route guarded short (fun hdeep => ?_) once
    simp [hshallow] at hdeep
  | idRef later carries hid =>
    exact .found route guarded short (fun _ => .idRef (moved later) carries hid) once
  | lost later carries _ _ hlacks =>
    exact .found route guarded short (fun _ => .lost (moved later) carries hlacks) once
  | repeated carries _ hrepeated =>
    exact .cut route guarded (.repeated carries (List.mem_reverse.1 hrepeated))
  | unfound hfirst carries hlacks =>
    exact .cut route guarded (.unfound (by simpa using hfirst) carries hlacks)

/-- A turn that walks on after a route makes it one walk longer, and the guards let that pass. -/
theorem guarded_of_walked {spot : Spot} {walks : List Walk} {walk : Walk} (guarded : Guarded walks)
    (turns : Turns assets store recursive (walks.map Walk.hop).reverse spot (.walked walk)) :
    Opens assets store spot walk ∧ Guarded (walks ++ [walk]) ∧
      (recursive = false → (walks ++ [walk]).length ≤ 1) := by
  obtain ⟨opens, goes, fresh⟩ := turns.opens_of_walked
  have hgoes : walks = [] ∨ recursive = true ∧ walk.reference.isIdRef = false :=
    goes.imp_left (by simp)
  refine ⟨opens, guarded.snoc (by simpa using fresh) (hgoes.imp_right And.right), ?_⟩
  intro hshallow
  rcases hgoes with hwalks | ⟨hdeep, _⟩
  · simp [hwalks]
  · simp [hshallow] at hdeep

/-- A chase that has gone along a route comes out as one that starts at the beginning of it, if the
    hops that it has taken are those of the route. -/
theorem comesOut_of_followFragments {hops : Nat} {start spot : Spot} {walks : List Walk}
    {session final : Session} {found : Option Json}
    (agrees : store.Agrees assets session.store) (route : Route assets store start walks spot)
    (guarded : Guarded walks) (once : recursive = false → walks.length ≤ 1)
    (h : followFragments assets recursive hops (walks.map Walk.hop).reverse spot session =
      .ok found final) :
    ComesOut assets store recursive (walks.length + hops) start found ∧
      store.Agrees assets final.store := by
  induction hops generalizing spot walks session with
  | zero =>
    cases h
    exact ⟨.cut route guarded (.exhausted rfl), agrees⟩
  | succ hops ih =>
    rcases followFragments_succ_eq_ok.1 h with hturn | ⟨walk, hturn, hlocated, rfl⟩ |
      ⟨walk, fragment, middle, hturn, hlocated, hrest⟩
    · obtain ⟨turns, agrees⟩ := turns_of_turn agrees hturn
      exact ⟨comesOut_of_ended route guarded (by omega) once turns, agrees⟩
    · obtain ⟨turns, agrees⟩ := turns_of_turn agrees hturn
      obtain ⟨opens, _, _⟩ := guarded_of_walked guarded turns
      exact ⟨.cut route guarded (.astray opens hlocated), agrees⟩
    · -- the route grows by the walk, and the hops that are left shrink by one
      obtain ⟨turns, agrees⟩ := turns_of_turn agrees hturn
      obtain ⟨opens, hguarded, honce⟩ := guarded_of_walked guarded turns
      have hlimit : walks.length + (hops + 1) = (walks ++ [walk]).length + hops := by
        rw [List.length_append, List.length_singleton]
        omega
      have htaken : walk.hop :: (walks.map Walk.hop).reverse =
          ((walks ++ [walk]).map Walk.hop).reverse := by simp
      rw [htaken] at hrest
      rw [hlimit]
      exact ih agrees (route.snoc opens hlocated) hguarded honce hrest

/-- A chase from an enclosing document comes out, and changes nothing of what is found. -/
theorem comesOut_of_resolve {fragment enclosing : Json} {session final : Session}
    {found : Option Json}
    (h : resolve assets fragment (some enclosing) recursive session = .ok found final) :
    ComesOut assets session.store recursive assets.config.limits.referenceHops
        ⟨fragment, enclosing, none⟩ found ∧
      session.store.Agrees assets final.store := by
  have out := comesOut_of_followFragments (.refl assets session.store) (.here _) .nil (by simp) h
  rwa [List.length_nil, Nat.zero_add] at out

/-! ## More hops -/

/-- With more hops a chase that answers a fragment answers the same. -/
theorem followFragments_of_le {hops more : Nat} (hle : hops ≤ more) {taken : List Hop}
    {spot : Spot} {session final : Session} {found : Json}
    (h : followFragments assets recursive hops taken spot session = .ok (some found) final) :
    followFragments assets recursive more taken spot session = .ok (some found) final := by
  induction hops generalizing more taken spot session with
  | zero => cases h
  | succ hops ih =>
    obtain ⟨further, rfl⟩ : ∃ further, more = further + 1 := ⟨more - 1, by omega⟩
    rw [followFragments_succ_eq_ok] at h ⊢
    rcases h with hturn | ⟨_, _, _, hnone⟩ | ⟨walk, fragment, middle, hturn, hlocated, hrest⟩
    · exact Or.inl hturn
    · cases hnone
    · exact Or.inr (Or.inr ⟨walk, fragment, middle, hturn, hlocated, ih (by omega) hrest⟩)

theorem targetFrom_withReferenceHops (hops : Nat) :
    targetFrom (assets.withReferenceHops hops) = targetFrom assets := by
  funext reference document
  unfold targetFrom Store.target Store.load
  rw [Assets.document?_withReferenceHops]

theorem extractDefinitions_withReferenceHops (hops : Nat) :
    Registry.extractDefinitions (assets.withReferenceHops hops) =
      Registry.extractDefinitions assets := by
  have hdependency : Registry.addDependency (assets.withReferenceHops hops) =
      Registry.addDependency assets := by
    funext owner registry uri
    unfold Registry.addDependency Registry.registerMention
    rw [Assets.entryOf_withReferenceHops]
  funext owner document
  unfold Registry.extractDefinitions Registry.addScan Registry.addDependencies
  rw [hdependency]
  rfl

theorem followFragments_withReferenceHops (limit hops : Nat) (taken : List Hop) (spot : Spot) :
    followFragments (assets.withReferenceHops limit) recursive hops taken spot =
      followFragments assets recursive hops taken spot := by
  induction hops generalizing taken spot with
  | zero => rfl
  | succ hops ih =>
    have hturn : turn (assets.withReferenceHops limit) recursive taken spot =
        turn assets recursive taken spot := by
      unfold turn
      rw [targetFrom_withReferenceHops, extractDefinitions_withReferenceHops]
    unfold followFragments
    rw [hturn]
    simp only [ih]

/-! ## What is answered -/

/-- A fragment that a chase answers lies at the end of a route that is shorter than the limit. A
    recursive chase comes to rest there, another one goes at most one walk, and with a higher limit
    the answer is the same. Where a chase answers nothing, a route shows what has cut it. -/
theorem route_of_resolve {fragment enclosing : Json} {session final : Session}
    {answer : Option Json}
    (h : resolve assets fragment (some enclosing) recursive session = .ok answer final) :
    (∀ found, answer = some found →
      (∃ walks last, Route assets session.store ⟨fragment, enclosing, none⟩ walks last ∧
        last.fragment = found ∧ walks.length < assets.config.limits.referenceHops ∧
        (recursive = true → Rests assets session.store walks last) ∧
        (recursive = false → walks.length ≤ 1)) ∧
      ∀ hops, assets.config.limits.referenceHops ≤ hops →
        resolve (assets.withReferenceHops hops) fragment (some enclosing) recursive session =
          .ok (some found) final) ∧
    (answer = none →
      ∃ walks last, Route assets session.store ⟨fragment, enclosing, none⟩ walks last ∧
        Cut assets session.store assets.config.limits.referenceHops walks last) := by
  obtain ⟨out, _⟩ := comesOut_of_resolve h
  constructor
  · rintro found rfl
    constructor
    · cases out with
      | found route _ short rests once => exact ⟨_, _, route, rfl, short, rests, once⟩
    · intro hops hle
      have more := followFragments_of_le hle h
      rw [← followFragments_withReferenceHops hops] at more
      exact more
  · rintro rfl
    cases out with
    | cut route _ cut => exact ⟨_, _, route, cut⟩

/-- Bound documents with a chain of references: from `A` to `B`, and there on to a text. -/
def chained : Store where
  documents := []
  extensions := []
  bound :=
    [("A", .object [("definitions", .object [("X", .object
      [("$ref", .string "B.json#/definitions/Y")])])]),
    ("B", .object [("definitions", .object [("Y", .object
      [("items", .object [("$ref", .string "#/definitions/Z")])]),
      ("Z", .object [("type", .string "string")])])])]

/-- The fragment from which the chain starts. -/
def chainStart : Json :=
  .object [("$ref", .string "A.json#/definitions/X")]

theorem route_of_chained :
    ∃ found final,
      resolve ⟨⟨[], []⟩, {}⟩ chainStart (some .null) true ⟨chained, .empty⟩ =
        .ok (some found) final ∧
      ∃ walks last, Route ⟨⟨[], []⟩, {}⟩ chained ⟨chainStart, .null, none⟩ walks last ∧
        last.fragment = found ∧ walks.length < 10 ∧ Rests ⟨⟨[], []⟩, {}⟩ chained walks last := by
  obtain ⟨found, final, h, -⟩ : ∃ found final,
      resolve ⟨⟨[], []⟩, {}⟩ chainStart (some .null) true ⟨chained, .empty⟩ =
        .ok (some found) final ∧ found.text? "type" = some "string" := by decide +kernel
  obtain ⟨⟨walks, last, route, hlast, short, rests, _⟩, _⟩ := (route_of_resolve h).1 found rfl
  exact ⟨found, final, h, walks, last, route, hlast, short, rests rfl⟩

end Resolution

end ResourceModel

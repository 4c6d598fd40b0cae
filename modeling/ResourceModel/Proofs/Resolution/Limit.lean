import ResourceModel.Proofs.Resolution.Agreement
import ResourceModel.Proofs.Resolution.Guard

set_option autoImplicit false

/-! # Chains as long as the limit

Both chases are allowed the same number of references, but they spend it differently. The one for a
document answers the document of the last reference that it may follow, be there a further one or
not. The one for a fragment looks at what it has come to only at the beginning of a turn, so it needs
one turn more than there are references: of a chain as long as the limit it follows every reference
and then answers nothing. -/

namespace ResourceModel.Resolution

variable {assets : Assets} {store : Store}

/-! ## Long chains -/

/-- A chase for a fragment that is allowed no more hops than its route has walks answers nothing. -/
theorem followFragments_of_long {hops : Nat} {taken : List Hop} {spot last : Spot}
    {walks : List Walk} {session : Session} (agrees : store.Agrees assets session.store)
    (route : Route assets store spot walks last) (long : hops ≤ walks.length)
    (goes : ∀ walk ∈ walks.head?, Goes true taken walk.reference)
    (direct : ∀ walk ∈ walks.tail, walk.reference.isIdRef = false)
    (shallow : ∀ walk ∈ walks,
      (Scan.ofDocument assets.config.limits.nestingDepth walk.document).complete) :
    ∃ final, followFragments assets true hops taken spot session = .ok none final := by
  induction route generalizing hops taken session with
  | here spot =>
    obtain rfl : hops = 0 := Nat.le_zero.1 long
    exact ⟨session, rfl⟩
  | @onward spot last walk fragment rest opens located _ ih =>
    cases hops with
    | zero => exact ⟨session, rfl⟩
    | succ hops =>
      have hgoes : Goes true taken walk.reference := goes walk rfl
      by_cases hrepeated : walk.hop ∈ taken
      · rw [Walk.hop, opens.stem] at hrepeated
        obtain ⟨final, hturn⟩ := turn_of_turns agrees (.repeated opens.carries hgoes hrepeated)
        exact ⟨final, followFragments_succ_eq_ok.2 (Or.inl hturn)⟩
      · obtain ⟨middle, hturn⟩ := turn_of_turns agrees
          (.walked opens hgoes hrepeated (shallow walk List.mem_cons_self))
        have hsame := (turns_of_turn agrees hturn).2
        have hlong : hops ≤ rest.length := Nat.le_of_succ_le_succ long
        have hgoes' : ∀ next ∈ rest.head?, Goes true (walk.hop :: taken) next.reference :=
          fun next hnext => Or.inr ⟨rfl, direct next (List.mem_of_mem_head? hnext)⟩
        obtain ⟨final, hfollow⟩ := ih hsame hlong hgoes'
          (fun next hnext => direct next (List.mem_of_mem_tail hnext))
          (fun next hnext => shallow next (List.mem_cons_of_mem _ hnext))
        exact ⟨final, followFragments_succ_eq_ok.2
          (Or.inr (Or.inr ⟨walk, fragment, middle, hturn, located, hfollow⟩))⟩

/-- The document of the last of the given walks; the given one if there are none. -/
def lastDocument (document : Json) (walks : List Walk) : Json :=
  (walks.getLast?.map Walk.document).getD document

theorem lastDocument_cons (document : Json) (walk : Walk) (rest : List Walk) :
    lastDocument document (walk :: rest) = lastDocument walk.document rest := by
  unfold lastDocument
  rw [List.getLast?_cons]
  cases rest.getLast? <;> rfl

/-- A chase for a document along references that all name one answers the document of the last walk
    that it is allowed. -/
theorem followDocuments_of_remote {hops : Nat} {taken : List Hop} {spot last : Spot} {walk : Walk}
    {fragment : Json} {rest : List Walk} {current : Store}
    (agrees : store.Agrees assets current) (opens : Opens assets store spot walk)
    (located : walk.located? = some fragment)
    (further : Route assets store (walk.spot fragment) rest last)
    (bare : Fragment.reference? last.fragment = none)
    (remote : ∀ next ∈ walk :: rest, next.reference.isLocal = false)
    (direct : ∀ next ∈ rest, next.reference.isIdRef = false)
    (fresh : (walk.hop :: (rest.map Walk.hop ++ taken)).Nodup) (document : Json) :
    ∃ changed, followDocuments assets hops taken walk.reference document current =
      .ok (lastDocument document ((walk :: rest).take hops)) changed := by
  induction rest generalizing hops taken spot walk fragment current document with
  | nil =>
    cases hops with
    | zero => exact ⟨current, rfl⟩
    | succ hops =>
      have hnew : walk.hop ∉ taken := (List.nodup_cons.1 fresh).1
      cases further
      rw [List.take_succ_cons, List.take_nil, lastDocument_cons]
      exact followDocuments_of_bare agrees opens (remote walk List.mem_cons_self) hnew located bare
        document
  | cons next rest ih =>
    cases hops with
    | zero => exact ⟨current, rfl⟩
    | succ hops =>
      have hnew : walk.hop ∉ taken := fun h =>
        (List.nodup_cons.1 fresh).1 (List.mem_append_right _ h)
      have hremote : ∀ later ∈ next :: rest, later.reference.isLocal = false :=
        fun later hlater => remote later (List.mem_cons_of_mem _ hlater)
      cases further with
      | onward opens' located' further' =>
        obtain ⟨changed, hsame, hfollow⟩ := followDocuments_of_carries agrees opens
          (remote walk List.mem_cons_self) hnew located opens'.carries document
        rw [hfollow, direct next List.mem_cons_self, hremote next List.mem_cons_self,
          List.take_succ_cons, lastDocument_cons]
        exact ih hsame opens' located' further' hremote
          (fun later hlater => direct later (List.mem_cons_of_mem _ hlater))
          (List.nodup_middle.2 fresh) walk.document

/-- The last document of a route is the one that it ends in. -/
theorem Route.lastDocument_eq {first last : Spot} {walks : List Walk}
    (route : Route assets store first walks last) :
    lastDocument first.document walks = last.document := by
  induction route with
  | here => rfl
  | @onward spot _ walk _ rest _ _ _ ih =>
    rw [lastDocument_cons]
    exact ih

/-! ## Chains of references that name documents -/

/-- A chain of references to a fragment without one: each names a document, none is taken twice,
    none but the first may point at an id, and no document on the way nests too deep to be
    scanned. -/
structure Chain (assets : Assets) (store : Store) (fragment enclosing : Json) (walks : List Walk)
    (last : Spot) : Prop where
  route : Route assets store ⟨fragment, enclosing, none⟩ walks last
  bare : Fragment.reference? last.fragment = none
  moved : walks ≠ []
  remote : ∀ walk ∈ walks, walk.reference.isLocal = false
  distinct : (walks.map Walk.hop).Nodup
  direct : ∀ walk ∈ walks.tail, walk.reference.isIdRef = false
  shallow : ∀ walk ∈ walks,
    (Scan.ofDocument assets.config.limits.nestingDepth walk.document).complete

variable {fragment enclosing : Json} {walks : List Walk} {last : Spot}

namespace Chain

theorem documentOf_eq_ok {current : Store} (chain : Chain assets store fragment enclosing walks last)
    (agrees : store.Agrees assets current) (positive : 0 < assets.config.limits.referenceHops)
    (fallback : Bool) :
    ∃ changed, documentOf assets fragment (some enclosing) fallback current =
      .ok (lastDocument enclosing (walks.take assets.config.limits.referenceHops)) changed := by
  obtain ⟨route, bare, moved, remote, distinct, direct, -⟩ := chain
  cases route with
  | here => exact absurd rfl moved
  | @onward _ _ walk located rest opens hlocated further =>
    obtain ⟨more, hlimit⟩ : ∃ more, assets.config.limits.referenceHops = more + 1 :=
      ⟨assets.config.limits.referenceHops - 1, by omega⟩
    obtain ⟨raw, hraw, hparse⟩ := opens.carries
    have hfresh : (walk.hop :: (rest.map Walk.hop ++ [])).Nodup := by
      rw [List.append_nil]
      exact distinct
    simp only [documentOf, hraw, hparse, Step.ofExcept, pure_bind, hlimit]
    -- where the chase starts does not count, since it is allowed to go on from there
    rw [List.take_succ_cons, lastDocument_cons]
    have follows : ∀ start, ∃ changed,
        followDocuments assets (more + 1) [] walk.reference start current =
          .ok (lastDocument walk.document (rest.take more)) changed := by
      intro start
      rw [← lastDocument_cons start walk, ← List.take_succ_cons]
      exact followDocuments_of_remote agrees opens hlocated further bare remote direct hfresh start
    exact follows _

theorem resolve_eq_ok {session : Session}
    (chain : Chain assets session.store fragment enclosing walks last) :
    ∃ final, resolve assets fragment (some enclosing) true session =
      .ok (if walks.length < assets.config.limits.referenceHops then some last.fragment else none)
        final := by
  have goes : ∀ walk ∈ walks.head?, Goes true [] walk.reference := fun _ _ => Or.inl rfl
  have same := Store.Agrees.refl assets session.store
  by_cases short : walks.length < assets.config.limits.referenceHops
  · have follows := followFragments_of_route same chain.route chain.bare short goes chain.direct
      chain.shallow List.nodup_nil
    rw [List.append_nil, if_pos chain.distinct] at follows
    rw [if_pos short]
    exact follows
  · rw [if_neg short]
    exact followFragments_of_long same chain.route (Nat.not_lt.1 short) goes chain.direct
      chain.shallow

/-- Of a chain, the chase for a document answers the document of the last reference that the limit
    allows, which is the last one of the chain if the limit is at least its length. The chase for a
    fragment comes to the end of the chain exactly if the limit is greater than its length, and
    answers nothing otherwise. So at the limit the two chases part. -/
theorem ends_iff_below_limit {session : Session}
    (chain : Chain assets session.store fragment enclosing walks last)
    (positive : 0 < assets.config.limits.referenceHops) :
    let limit := assets.config.limits.referenceHops
    (∀ store fallback, session.store.Agrees assets store →
      ∃ changed, documentOf assets fragment (some enclosing) fallback store =
        .ok (lastDocument enclosing (walks.take limit)) changed) ∧
      (walks.length ≤ limit → lastDocument enclosing (walks.take limit) = last.document) ∧
      ((∃ final, resolve assets fragment (some enclosing) true session =
        .ok (some last.fragment) final) ↔ walks.length < limit) ∧
      (limit ≤ walks.length → ∃ final, resolve assets fragment (some enclosing) true session =
        .ok none final) := by
  intro limit
  obtain ⟨final, hresolve⟩ := chain.resolve_eq_ok
  refine ⟨fun store fallback agrees => chain.documentOf_eq_ok agrees positive fallback,
    fun whole => ?_, ⟨?_, fun short => ?_⟩, fun long => ?_⟩
  · rw [List.take_of_length_le whole]
    exact chain.route.lastDocument_eq
  · rintro ⟨_, hfound⟩
    by_contra long
    rw [if_neg long] at hresolve
    cases hresolve.symm.trans hfound
  · rw [if_pos short] at hresolve
    exact ⟨final, hresolve⟩
  · rw [if_neg (Nat.not_lt.2 long)] at hresolve
    exact ⟨final, hresolve⟩

end Chain

/-- The assets without files, with a limit for the references that are followed. -/
def withLimit (hops : Nat) : Assets :=
  ⟨⟨[], []⟩, { limits := { referenceHops := hops } }⟩

/-- Bound documents with a chain of two references: to `A`, and from there on to a text in `B`. -/
def relayed : Store where
  documents := []
  extensions := []
  bound :=
    [("A", .object [("definitions", .object [("X", .object
      [("$ref", .string "B.json#/definitions/Y")])])]),
    ("B", .object [("definitions", .object [("Y", .object [("type", .string "string")])])])]

/-- The chain that the search for a route finds, if it is one. -/
theorem chain_of_routeFrom {assets : Assets} {store : Store} {fragment enclosing : Json} (more : Nat)
    (checked : let found := routeFrom assets store more ⟨fragment, enclosing, none⟩
      Fragment.reference? found.2.fragment = none ∧ found.1.isEmpty = false ∧
        (∀ walk ∈ found.1, walk.reference.isLocal = false) ∧ (found.1.map Walk.hop).Nodup ∧
        (∀ walk ∈ found.1.tail, walk.reference.isIdRef = false) ∧
        ∀ walk ∈ found.1,
          (Scan.ofDocument assets.config.limits.nestingDepth walk.document).complete = true) :
    Chain assets store fragment enclosing
      (routeFrom assets store more ⟨fragment, enclosing, none⟩).1
      (routeFrom assets store more ⟨fragment, enclosing, none⟩).2 := by
  obtain ⟨bare, moved, remote, distinct, direct, shallow⟩ := checked
  refine ⟨route_routeFrom more _, bare, ?_, remote, distinct, direct, shallow⟩
  intro empty
  rw [empty] at moved
  simp at moved

theorem ends_of_relayed :
    (∃ found final, resolve (withLimit 3) chainStart (some .null) true ⟨relayed, .empty⟩ =
        .ok (some found) final ∧ found.text? "type" = some "string") ∧
      (∃ final, resolve (withLimit 2) chainStart (some .null) true ⟨relayed, .empty⟩ =
        .ok none final) ∧
      ∃ document changed, documentOf (withLimit 2) chainStart (some .null) true relayed =
        .ok document changed ∧ ((document.get? "definitions").any (·.has "Y")) = true := by
  let session : Session := ⟨relayed, .empty⟩
  let wide := routeFrom (withLimit 3) relayed 2 ⟨chainStart, .null, none⟩
  let tight := routeFrom (withLimit 2) relayed 2 ⟨chainStart, .null, none⟩
  have checked : wide.1.length = 2 ∧ wide.2.fragment.text? "type" = some "string" ∧
      tight.1.length = 2 ∧
      ((tight.2.document.get? "definitions").any (·.has "Y")) = true := by decide +kernel
  obtain ⟨hwide, htype, htight, hdocument⟩ := checked
  have wideChain : Chain (withLimit 3) session.store chainStart .null wide.1 wide.2 :=
    chain_of_routeFrom 2 (by decide +kernel)
  have tightChain : Chain (withLimit 2) session.store chainStart .null tight.1 tight.2 :=
    chain_of_routeFrom 2 (by decide +kernel)
  obtain ⟨-, -, ends, -⟩ := Chain.ends_iff_below_limit wideChain (by decide)
  obtain ⟨documents, whole, -, cut⟩ := Chain.ends_iff_below_limit tightChain (by decide)
  obtain ⟨final, hfound⟩ := ends.2 (by rw [hwide]; decide)
  obtain ⟨changed, hlast⟩ := documents relayed true (.refl _ _)
  rw [whole (by rw [htight]; decide)] at hlast
  exact ⟨⟨_, final, hfound, htype⟩, cut (by rw [htight]; decide), _, changed, hlast, hdocument⟩

/-- A bound document with a text, to which a fragment refers directly. -/
def oneHop : Store where
  documents := []
  extensions := []
  bound :=
    [("A", .object [("definitions", .object [("X", .object [("type", .string "string")])])])]

/-- A chain as long as the limit is not followed to its end by the chase for a fragment: here a
    single reference with a limit of one. -/
theorem ends_not_at_limit :
    ¬ ∀ (assets : Assets) (session : Session) (fragment enclosing : Json) (walks : List Walk)
      (last : Spot), Chain assets session.store fragment enclosing walks last →
      walks.length = assets.config.limits.referenceHops →
      (∃ changed, documentOf assets fragment (some enclosing) true session.store =
        .ok last.document changed) ∧
      ∃ final, resolve assets fragment (some enclosing) true session =
        .ok (some last.fragment) final := by
  intro ends
  let session : Session := ⟨oneHop, .empty⟩
  let found := routeFrom (withLimit 1) session.store 1 ⟨chainStart, .null, none⟩
  have chain : Chain (withLimit 1) session.store chainStart .null found.1 found.2 :=
    chain_of_routeFrom 1 (by decide +kernel)
  have hlength : found.1.length = 1 := by decide +kernel
  obtain ⟨answer, left, hcut, hnone⟩ : ∃ answer left,
      resolve (withLimit 1) chainStart (some .null) true session = .ok answer left ∧
        answer.isNone := by decide +kernel
  obtain ⟨-, final, hfound⟩ := ends (withLimit 1) session chainStart .null found.1 found.2 chain
    hlength
  cases hcut.symm.trans hfound
  simp at hnone

end ResourceModel.Resolution

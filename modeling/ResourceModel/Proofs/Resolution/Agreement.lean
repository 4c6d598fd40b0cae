import Mathlib.Data.List.Nodup
import ResourceModel.Proofs.Resolution.Outcome

set_option autoImplicit false

/-! # The document of a fragment

What a fragment refers to is found by one chase, and the document that holds it by another one. They
go along the same references, but the second one stops at the first reference into the same document,
and there the first one goes on. So both come to the same document where no reference into another
one comes later on the route. -/

namespace ResourceModel.Resolution

variable {assets : Assets} {store : Store}

/-! ## One document further -/

/-- A chase for a document stops at a reference that names no document. -/
theorem followDocuments_of_unnamed {hops : Nat} {taken : List Hop} {reference : Reference}
    (h : store.named? assets reference = .ok none) (current : Json) :
    ∃ changed, followDocuments assets hops taken reference current store = .ok current changed := by
  cases hops with
  | zero => exact ⟨store, rfl⟩
  | succ hops =>
    unfold followDocuments
    by_cases hrepeated : Hop.along reference none ∈ taken
    · simp only [if_pos hrepeated]
      exact ⟨store, rfl⟩
    · obtain ⟨changed, hread⟩ := Store.target_of_named? h
      simp only [if_neg hrepeated, Step.bind_apply, hread]
      exact ⟨changed, rfl⟩

theorem continuation?_of_bare {walk : Walk} {fragment : Json}
    (located : walk.located? = some fragment) (bare : Fragment.reference? fragment = none) :
    continuation? walk.document walk.reference = .ok none := by
  unfold continuation?
  rw [Pointer.lenient_of_strict? located, bare]

theorem continuation?_of_carries {walk : Walk} {fragment : Json} {reference : Reference}
    (located : walk.located? = some fragment) (carries : Carries fragment reference) :
    continuation? walk.document walk.reference = .ok (some reference) := by
  obtain ⟨raw, hraw, hparse⟩ := carries
  unfold continuation?
  rw [Pointer.lenient_of_strict? located, hraw]
  simp only [hparse]
  rfl

/-- A chase for a document goes on from the document that its reference leads into, if the hop is
    new. -/
theorem followDocuments_of_opens {hops : Nat} {taken : List Hop} {spot : Spot} {walk : Walk}
    {current : Store} (agrees : store.Agrees assets current) (opens : Opens assets store spot walk)
    (remote : walk.reference.isLocal = false) (fresh : walk.hop ∉ taken) (document : Json) :
    ∃ changed, store.Agrees assets changed ∧
      followDocuments assets (hops + 1) taken walk.reference document current =
        (do
          match ← Step.ofExcept (continuation? walk.document walk.reference) with
          | none => return walk.document
          | some next =>
            if next.isIdRef || next.isLocal then return walk.document
            else followDocuments assets hops (walk.hop :: taken) next walk.document) changed := by
  have hnamed := opens.leads
  rw [led?, if_neg (by simp [remote]), ← agrees.named?_eq] at hnamed
  obtain ⟨changed, hread⟩ := Store.target_of_named? hnamed
  -- a reference that names a document takes the same hop from everywhere
  have hhop : Hop.along walk.reference none = walk.hop := by
    obtain ⟨stem, hstem⟩ := Option.isSome_iff_exists.1 (Option.isNone_eq_false_iff.1 remote)
    simp [Walk.hop, Hop.along, hstem]
  refine ⟨changed, agrees.trans (Store.named?_of_target hread).2, ?_⟩
  rw [followDocuments, hhop]
  simp only [if_neg fresh]
  rewrite [Step.bind_apply, hread]
  rfl

theorem followDocuments_of_bare {hops : Nat} {taken : List Hop} {spot : Spot} {walk : Walk}
    {fragment : Json} {current : Store} (agrees : store.Agrees assets current)
    (opens : Opens assets store spot walk) (remote : walk.reference.isLocal = false)
    (fresh : walk.hop ∉ taken) (located : walk.located? = some fragment)
    (bare : Fragment.reference? fragment = none) (document : Json) :
    ∃ changed, followDocuments assets (hops + 1) taken walk.reference document current =
      .ok walk.document changed := by
  obtain ⟨changed, _, hfollow⟩ := followDocuments_of_opens agrees opens remote fresh document
  rw [hfollow, continuation?_of_bare located bare]
  exact ⟨changed, rfl⟩

theorem followDocuments_of_carries {hops : Nat} {taken : List Hop} {spot : Spot} {walk : Walk}
    {fragment : Json} {next : Reference} {current : Store} (agrees : store.Agrees assets current)
    (opens : Opens assets store spot walk) (remote : walk.reference.isLocal = false)
    (fresh : walk.hop ∉ taken) (located : walk.located? = some fragment)
    (carries : Carries fragment next) (document : Json) :
    ∃ changed, store.Agrees assets changed ∧
      followDocuments assets (hops + 1) taken walk.reference document current =
        (if next.isIdRef || next.isLocal then .ok walk.document changed
        else followDocuments assets hops (walk.hop :: taken) next walk.document changed) := by
  obtain ⟨changed, hsame, hfollow⟩ := followDocuments_of_opens agrees opens remote fresh document
  refine ⟨changed, hsame, ?_⟩
  rw [hfollow, continuation?_of_carries located carries]
  simp only [Step.ofExcept, pure_bind]
  split <;> rfl

/-! ## Along a route -/

/-- The document to which walks lead from a document before the first one that stays in its
    document. -/
def leadingDocument (document : Json) : List Walk → Json
  | [] => document
  | walk :: rest =>
    if walk.reference.isLocal then document else leadingDocument walk.document rest

theorem leadingDocument_of_local {walk : Walk} (h : walk.reference.isLocal = true) (document : Json)
    (rest : List Walk) : leadingDocument document (walk :: rest) = document := by
  rw [leadingDocument, if_pos h]

theorem leadingDocument_of_remote {walk : Walk} (h : walk.reference.isLocal = false)
    (document : Json) (rest : List Walk) :
    leadingDocument document (walk :: rest) = leadingDocument walk.document rest := by
  rw [leadingDocument, if_neg (by simp [h])]

theorem Rests.of_moved {walks others : List Walk} {spot : Spot}
    (h : Rests assets store walks spot) (moved : others ≠ []) : Rests assets store others spot := by
  cases h with
  | bare h => exact .bare h
  | idRef _ carries h => exact .idRef moved carries h
  | lost _ carries h => exact .lost moved carries h

/-- A chase for a document along a reference into another one comes to the document to which the
    route leads before its first walk that stays in its document. -/
theorem followDocuments_of_route {hops : Nat} {taken : List Hop} {spot last : Spot} {walk : Walk}
    {fragment : Json} {rest : List Walk} {current : Store}
    (agrees : store.Agrees assets current) (opens : Opens assets store spot walk)
    (remote : walk.reference.isLocal = false) (located : walk.located? = some fragment)
    (further : Route assets store (walk.spot fragment) rest last)
    (rests : Rests assets store (walk :: rest) last)
    (direct : ∀ next ∈ rest, next.reference.isIdRef = false) (short : rest.length < hops)
    (fresh : (walk.hop :: (rest.map Walk.hop ++ taken)).Nodup) (document : Json) :
    ∃ changed, followDocuments assets hops taken walk.reference document current =
      .ok (leadingDocument walk.document rest) changed := by
  -- on the walks that come after the first: each goes from the fragment that the one before it
  -- located, and none takes a hop that is taken
  induction rest generalizing hops taken spot walk fragment current document with
  | nil =>
    obtain ⟨more, rfl⟩ : ∃ more, hops = more + 1 := ⟨hops - 1, by omega⟩
    have hnew : walk.hop ∉ taken := (List.nodup_cons.1 fresh).1
    cases further
    cases rests with
    | bare bare => exact followDocuments_of_bare agrees opens remote hnew located bare document
    | idRef _ carries hid =>
      obtain ⟨changed, _, hfollow⟩ :=
        followDocuments_of_carries agrees opens remote hnew located carries document
      rw [hfollow, hid, Bool.true_or, if_pos rfl]
      exact ⟨changed, rfl⟩
    | lost _ carries hlacks =>
      obtain ⟨changed, hsame, hfollow⟩ :=
        followDocuments_of_carries agrees opens remote hnew located carries document
      rw [hfollow]
      split
      · exact ⟨changed, rfl⟩
      · refine followDocuments_of_unnamed ?_ walk.document
        rw [hsame.named?_eq]
        exact (Store.named?_eq_none_iff hlacks.names).2 hlacks
  | cons next rest ih =>
    obtain ⟨more, rfl⟩ : ∃ more, hops = more + 1 := ⟨hops - 1, by omega⟩
    have hnew : walk.hop ∉ taken := fun h =>
      (List.nodup_cons.1 fresh).1 (List.mem_append_right _ h)
    cases further with
    | onward opens' located' further' =>
      obtain ⟨changed, hsame, hfollow⟩ :=
        followDocuments_of_carries agrees opens remote hnew located opens'.carries document
      rw [hfollow, direct next List.mem_cons_self, Bool.false_or]
      cases hlocal : next.reference.isLocal with
      | true =>
        rw [leadingDocument_of_local hlocal]
        exact ⟨changed, rfl⟩
      | false =>
        rw [leadingDocument_of_remote hlocal]
        have hshort : rest.length < more := by
          rw [List.length_cons] at short
          omega
        exact ih hsame opens' hlocal located' further' (rests.of_moved (List.cons_ne_nil _ _))
          (fun other hother => direct other (List.mem_cons_of_mem _ hother)) hshort
          (List.nodup_middle.2 fresh) walk.document

/-- The document that holds what a fragment refers to is the one to which the route of the fragment
    leads before its first walk that stays in its document. -/
theorem documentOf_of_route {fragment enclosing : Json} {walks : List Walk} {last : Spot}
    {current : Store} (agrees : store.Agrees assets current)
    (route : Route assets store ⟨fragment, enclosing, none⟩ walks last)
    (guarded : Guarded walks) (rests : Rests assets store walks last)
    (short : walks.length < assets.config.limits.referenceHops) :
    ∃ changed, documentOf assets fragment (some enclosing) true current =
      .ok (leadingDocument enclosing walks) changed := by
  cases route with
  | here =>
    cases rests with
    | bare bare =>
      simp only at bare
      simp [documentOf, bare, leadingDocument]
    | idRef moved => exact absurd rfl moved
    | lost moved => exact absurd rfl moved
  | @onward _ _ walk fragment rest opens located further =>
    obtain ⟨raw, hraw, hparse⟩ := opens.carries
    simp only [documentOf, hraw, hparse, Step.ofExcept, pure_bind, Bool.true_or, if_true]
    cases hlocal : walk.reference.isLocal with
    | true =>
      rw [leadingDocument_of_local hlocal]
      exact followDocuments_of_unnamed (Store.named?_of_isLocal hlocal) enclosing
    | false =>
      rw [leadingDocument_of_remote hlocal]
      have hshort : rest.length < assets.config.limits.referenceHops := by
        rw [List.length_cons] at short
        omega
      refine followDocuments_of_route agrees opens hlocal located further rests guarded.direct hshort
        ?_ enclosing
      rw [List.append_nil]
      exact guarded.fresh

/-! ## Agreement -/

/-- Whether no walk into another document comes after one that stays in its document. -/
def LocalsLast (walks : List Walk) : Prop :=
  walks.Pairwise fun walk later => walk.reference.isLocal = true → later.reference.isLocal = true

/-- Walks that stay in their document come to a fragment of it. -/
theorem Route.document_of_local {first last : Spot} {walks : List Walk}
    (route : Route assets store first walks last)
    (h : ∀ walk ∈ walks, walk.reference.isLocal = true) : last.document = first.document := by
  induction route with
  | here => rfl
  | @onward spot _ walk _ rest opens _ _ ih =>
    have hleads := opens.leads
    rw [led?, if_pos (h walk List.mem_cons_self)] at hleads
    rw [ih fun later hlater => h later (List.mem_cons_of_mem _ hlater)]
    exact (Option.some.inj (Except.ok.inj hleads)).symm

theorem Route.leadingDocument_eq {first last : Spot} {walks : List Walk}
    (route : Route assets store first walks last) (h : LocalsLast walks) :
    leadingDocument first.document walks = last.document := by
  induction route with
  | here => rfl
  | @onward spot last walk fragment rest opens located further ih =>
    obtain ⟨hwalk, hrest⟩ := List.pairwise_cons.1 h
    cases hlocal : walk.reference.isLocal with
    | true =>
      have hall : ∀ later ∈ walk :: rest, later.reference.isLocal = true := by
        intro later hlater
        rcases List.mem_cons.1 hlater with rfl | hlater
        · exact hlocal
        · exact hwalk later hlater hlocal
      rw [leadingDocument_of_local hlocal]
      exact ((Route.onward opens located further).document_of_local hall).symm
    | false =>
      rw [leadingDocument_of_remote hlocal]
      exact ih hrest

/-- A fragment that is answered lies where its route comes to rest, and the document that is answered
    for it is the one to which this route leads before its first walk that stays in its document. So
    the two chases agree exactly if this is the document of the fragment, which it is if the route
    goes into no other document after such a walk. -/
theorem documentOf_of_resolve {fragment enclosing found : Json} {session final : Session}
    (h : resolve assets fragment (some enclosing) true session = .ok (some found) final) :
    ∃ walks last, Route assets session.store ⟨fragment, enclosing, none⟩ walks last ∧
      Rests assets session.store walks last ∧ last.fragment = found ∧
      session.store.Agrees assets final.store ∧
      (∀ store, session.store.Agrees assets store →
        ∃ changed, documentOf assets fragment (some enclosing) true store =
          .ok (leadingDocument enclosing walks) changed) ∧
      (LocalsLast walks → leadingDocument enclosing walks = last.document) := by
  obtain ⟨out, kept⟩ := comesOut_of_resolve h
  cases out with
  | @found walks last route guarded short rests _ =>
    refine ⟨walks, last, route, rests rfl, rfl, kept, fun store agrees => ?_,
      route.leadingDocument_eq⟩
    exact documentOf_of_route agrees route guarded (rests rfl) short

theorem documentOf_of_chained :
    ∃ found final, resolve ⟨⟨[], []⟩, {}⟩ chainStart (some .null) true ⟨chained, .empty⟩ =
        .ok (some found) final ∧
      ∃ walks last, Route ⟨⟨[], []⟩, {}⟩ chained ⟨chainStart, .null, none⟩ walks last ∧
        last.fragment = found ∧ ∃ changed,
          documentOf ⟨⟨[], []⟩, {}⟩ chainStart (some .null) true final.store =
            .ok last.document changed := by
  let route := routeFrom ⟨⟨[], []⟩, {}⟩ chained 3 ⟨chainStart, .null, none⟩
  have checked : (∃ found final, resolve ⟨⟨[], []⟩, {}⟩ chainStart (some .null) true
        ⟨chained, .empty⟩ = .ok (some found) final ∧ Fragment.reference? found = none) ∧
      Fragment.reference? route.2.fragment = none ∧
      route.1.Pairwise fun walk later =>
        walk.reference.isLocal = true → later.reference.isLocal = true := by decide +kernel
  obtain ⟨⟨found, final, h, hrests⟩, bare, last⟩ := checked
  obtain ⟨walks, spot, hroute, _, hfound, kept, answers, agree⟩ := documentOf_of_resolve h
  rw [← hfound] at hrests
  obtain ⟨rfl, _⟩ := hroute.unique (route_routeFrom 3 _) hrests bare
  obtain ⟨changed, hdocument⟩ := answers final.store kept
  rw [agree last] at hdocument
  exact ⟨found, final, h, _, spot, hroute, hfound, changed, hdocument⟩

/-- Bound documents between which a reference goes on from one that stays in its document: a
    definition of `A` refers to another one there, and this one to a text in `B`. -/
def detour : Store where
  documents := []
  extensions := []
  bound :=
    [("A", .object [("definitions", .object
      [("X", .object [("$ref", .string "#/definitions/Y")]),
        ("Y", .object [("$ref", .string "B.json#/definitions/Z")])])]),
    ("B", .object [("definitions", .object [("Z", .object [("type", .string "string")])])])]

/-- The document that is answered for a fragment need not hold what the fragment refers to: here it
    is `A`, while the text lies in `B`. -/
theorem documentOf_not_of_resolve :
    ¬ ∀ (assets : Assets) (fragment enclosing found : Json) (session final : Session),
      resolve assets fragment (some enclosing) true session = .ok (some found) final →
      ∃ walks last, Route assets session.store ⟨fragment, enclosing, none⟩ walks last ∧
        last.fragment = found ∧ ∃ changed,
          documentOf assets fragment (some enclosing) true final.store =
            .ok last.document changed := by
  intro agree
  let route := routeFrom ⟨⟨[], []⟩, {}⟩ detour 3 ⟨chainStart, .null, none⟩
  let defines (document : Json) : Bool := (document.get? "definitions").any (·.has "X")
  have checked : (∃ found final, resolve ⟨⟨[], []⟩, {}⟩ chainStart (some .null) true
        ⟨detour, .empty⟩ = .ok (some found) final ∧ Fragment.reference? found = none ∧
        ∃ document left, documentOf ⟨⟨[], []⟩, {}⟩ chainStart (some .null) true final.store =
          .ok document left ∧ defines document = true) ∧
      Fragment.reference? route.2.fragment = none ∧ defines route.2.document = false := by
    decide +kernel
  obtain ⟨⟨found, final, h, hrests, document, left, hanswered, hdefines⟩, bare, other⟩ := checked
  obtain ⟨walks, last, hroute, hfound, changed, hdocument⟩ := agree _ _ _ _ _ _ h
  rw [← hfound] at hrests
  obtain ⟨_, rfl⟩ := hroute.unique (route_routeFrom 3 _) hrests bare
  cases hanswered.symm.trans hdocument
  exact Bool.false_ne_true (other.symm.trans hdefines)

end ResourceModel.Resolution

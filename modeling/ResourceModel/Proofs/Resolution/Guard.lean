import Mathlib.Data.List.Nodup
import ResourceModel.Proofs.Resolution.Outcome

set_option autoImplicit false

/-! # What the guard against cycles cuts

A hop stands in for the document that it leads into: it has the stem of the document, but not the
standard. On a route that ends at a fragment without a reference no document is walked twice along
the same pointer, since references lead on from there in one way only. So a hop that repeats on such
a route stands in for two documents, and the guard takes for a cycle what is none. -/

namespace ResourceModel.Resolution

variable {assets : Assets} {store : Store}

/-! ## A chase along a route -/

/-- A chase along a route to a fragment without a reference comes to its end, unless a hop is taken
    twice. -/
theorem followFragments_of_route {hops : Nat} {taken : List Hop} {spot last : Spot}
    {walks : List Walk} {session : Session} (agrees : store.Agrees assets session.store)
    (route : Route assets store spot walks last) (bare : Fragment.reference? last.fragment = none)
    (short : walks.length < hops)
    (goes : ∀ walk ∈ walks.head?, Goes true taken walk.reference)
    (direct : ∀ walk ∈ walks.tail, walk.reference.isIdRef = false)
    (shallow : ∀ walk ∈ walks,
      (Scan.ofDocument assets.config.limits.nestingDepth walk.document).complete)
    (fresh : taken.Nodup) :
    ∃ final, followFragments assets true hops taken spot session =
      .ok (if (walks.map Walk.hop ++ taken).Nodup then some last.fragment else none) final := by
  -- along the route: what is taken grows by the hop of the walk, so that it keeps free of repeats
  -- exactly as long as the hops of the whole route do
  induction route generalizing hops taken session with
  | here spot =>
    obtain ⟨more, rfl⟩ : ∃ more, hops = more + 1 := ⟨hops - 1, by omega⟩
    have hends : Turns assets store true taken spot (.ended (some spot.fragment)) := .bare bare
    obtain ⟨final, hturn⟩ := turn_of_turns agrees hends
    refine ⟨final, followFragments_succ_eq_ok.2 (Or.inl ?_)⟩
    simpa [fresh] using hturn
  | @onward spot last walk fragment rest opens located _ ih =>
    obtain ⟨more, rfl⟩ : ∃ more, hops = more + 1 := ⟨hops - 1, by omega⟩
    have hgoes : Goes true taken walk.reference := goes walk rfl
    by_cases hrepeated : walk.hop ∈ taken
    · have hcut : ¬ ((walk :: rest).map Walk.hop ++ taken).Nodup := by
        simp [hrepeated]
      rw [Walk.hop, opens.stem] at hrepeated
      obtain ⟨final, hturn⟩ := turn_of_turns agrees (.repeated opens.carries hgoes hrepeated)
      rw [if_neg hcut]
      exact ⟨final, followFragments_succ_eq_ok.2 (Or.inl hturn)⟩
    · obtain ⟨middle, hturn⟩ := turn_of_turns agrees
        (.walked opens hgoes hrepeated (shallow walk List.mem_cons_self))
      have hsame := (turns_of_turn agrees hturn).2
      -- the hop of the walk moves from the hops that come to those that are taken
      have hmoved : ((walk :: rest).map Walk.hop ++ taken).Nodup ↔
          (rest.map Walk.hop ++ walk.hop :: taken).Nodup := by
        rw [List.map_cons, List.cons_append]
        exact List.nodup_middle.symm
      have hrest : rest.length < more := by
        rw [List.length_cons] at short
        omega
      have hfresh : (walk.hop :: taken).Nodup := List.nodup_cons.2 ⟨hrepeated, fresh⟩
      obtain ⟨final, hfollow⟩ := ih hsame bare hrest
        (fun next hnext => Or.inr ⟨rfl, direct next (List.mem_of_mem_head? hnext)⟩)
        (fun next hnext => direct next (List.mem_of_mem_tail hnext))
        (fun next hnext => shallow next (List.mem_cons_of_mem _ hnext)) hfresh
      simp only [hmoved]
      exact ⟨final, followFragments_succ_eq_ok.2
        (Or.inr (Or.inr ⟨walk, fragment, middle, hturn, located, hfollow⟩))⟩

/-! ## What hops tell apart -/

/-- Whether the hops of walks tell their documents apart. -/
def TellApart (walks : List Walk) : Prop :=
  ∀ walk ∈ walks, ∀ other ∈ walks, walk.hop = other.hop → walk.document = other.document

/-- Whether walks that name the same stem name it in the same standard. -/
def NameAlike (walks : List Walk) : Prop :=
  ∀ walk ∈ walks, ∀ other ∈ walks, walk.reference.stem? = other.reference.stem? →
    walk.reference.standard = other.reference.standard

/-- Two walks with the same hop into the same document come to the same spot. -/
theorem spot_of_same_hop {walk other : Walk} (hhop : walk.hop = other.hop)
    (hdocument : walk.document = other.document) :
    walk.located? = other.located? ∧ walk.spot = other.spot := by
  simp only [Walk.hop, Hop.along, Hop.mk.injEq] at hhop
  constructor
  · unfold Walk.located?
    rw [hdocument, hhop.2]
  · funext fragment
    unfold Walk.spot
    rw [hdocument, hhop.1]

/-- No hop is taken twice on a route to a fragment without a reference if the hops tell the
    documents apart. -/
theorem Route.nodup_hops {first last : Spot} {walks : List Walk}
    (route : Route assets store first walks last) (bare : Fragment.reference? last.fragment = none)
    (apart : TellApart walks) : (walks.map Walk.hop).Nodup := by
  induction route with
  | here => exact List.nodup_nil
  | @onward spot last walk fragment rest opens located further ih =>
    have hrest : TellApart rest := fun walk hwalk other hother =>
      apart walk (List.mem_cons_of_mem _ hwalk) other (List.mem_cons_of_mem _ hother)
    rw [List.map_cons, List.nodup_cons]
    refine ⟨fun hrepeated => ?_, ih bare hrest⟩
    obtain ⟨other, hother, hhop⟩ := List.mem_map.1 hrepeated
    have hdocument := apart other (List.mem_cons_of_mem _ hother) walk List.mem_cons_self hhop
    obtain ⟨hsame, hspot⟩ := spot_of_same_hop hhop hdocument
    -- the route would go on from here by the rest, and by a shorter one
    obtain ⟨found, shorter, hfound, hagain, hlength⟩ := further.of_mem hother
    obtain rfl := Option.some.inj (hfound.symm.trans (hsame.trans located))
    rw [hspot] at hagain
    obtain ⟨rfl, _⟩ := further.unique hagain bare bare
    omega

theorem tellApart_of_nodup {walks : List Walk} (h : (walks.map Walk.hop).Nodup) :
    TellApart walks := by
  intro walk hwalk other hother hhop
  rw [List.inj_on_of_nodup_map h hwalk hother hhop]

/-! ## The documents of a route -/

/-- Whether a document is the one that a stem stands for along walks that start in an enclosing
    document: the enclosing one without a stem, or else one that a walk names by the stem. -/
def StandsFor (assets : Assets) (store : Store) (enclosing : Json) (walks : List Walk)
    (stem : Option String) (document : Json) : Prop :=
  match stem with
  | none => document = enclosing
  | some stem => ∃ walk ∈ walks, walk.reference.stem? = some stem ∧
      store.named? assets walk.reference = .ok (some document)

theorem standsFor_of_opens {enclosing : Json} {walks : List Walk} {spot : Spot} {walk : Walk}
    (h : StandsFor assets store enclosing walks spot.stem spot.document)
    (opens : Opens assets store spot walk) (hmem : walk ∈ walks) :
    StandsFor assets store enclosing walks (walk.reference.stem?.or walk.stem) walk.document := by
  have hleads := opens.leads
  unfold led? at hleads
  cases hstem : walk.reference.stem? with
  | none =>
    rw [Reference.isLocal, hstem, Option.isNone_none, if_pos rfl] at hleads
    rw [Option.none_or, opens.stem, ← Option.some.inj (Except.ok.inj hleads)]
    exact h
  | some stem =>
    rw [Reference.isLocal, hstem, Option.isNone_some, if_neg (by simp)] at hleads
    exact ⟨walk, hmem, hstem, hleads⟩

/-- Every walk of a route leads into the document that the stem of its hop stands for. -/
theorem Route.standsFor {enclosing : Json} {seen walks : List Walk} {first last : Spot}
    (route : Route assets store first walks last) (hseen : walks ⊆ seen)
    (h : StandsFor assets store enclosing seen first.stem first.document) :
    ∀ walk ∈ walks, StandsFor assets store enclosing seen walk.hop.document walk.document := by
  induction route with
  | here => simp
  | @onward spot last walk fragment rest opens _ _ ih =>
    have hwalk := standsFor_of_opens h opens (hseen List.mem_cons_self)
    intro next hnext
    rcases List.mem_cons.1 hnext with rfl | hnext
    · exact hwalk
    · exact ih (fun other hother => hseen (List.mem_cons_of_mem _ hother)) hwalk next hnext

/-- The hops of a route tell the documents apart if no stem is named in two standards. -/
theorem Route.tellApart {fragment enclosing : Json} {last : Spot} {walks : List Walk}
    (route : Route assets store ⟨fragment, enclosing, none⟩ walks last) (alike : NameAlike walks) :
    TellApart walks := by
  have hstands := route.standsFor (List.Subset.refl walks) rfl
  intro walk hwalk other hother hhop
  have hfirst := hstands walk hwalk
  have hsecond := hstands other hother
  rw [← hhop] at hsecond
  cases hstem : walk.hop.document with
  | none =>
    rw [hstem] at hfirst hsecond
    exact Eq.trans hfirst (Eq.symm hsecond)
  | some stem =>
    rw [hstem] at hfirst hsecond
    obtain ⟨naming, hmem, hnames, hfound⟩ := hfirst
    obtain ⟨naming', hmem', hnames', hfound'⟩ := hsecond
    have hsame : naming.reference.stem? = naming'.reference.stem? := hnames.trans hnames'.symm
    rw [Store.named?_congr hsame (alike naming hmem naming' hmem' hsame), hfound'] at hfound
    exact (Option.some.inj (Except.ok.inj hfound)).symm

/-! ## Finite chains -/

/-- A chain of references that ends is followed to its end exactly if the hops tell its documents
    apart, and otherwise nothing is answered. The hops do if no stem is named in two standards. -/
theorem answers_end_iff_tellApart {fragment enclosing : Json} {session : Session}
    {walks : List Walk} {last : Spot}
    (route : Route assets session.store ⟨fragment, enclosing, none⟩ walks last)
    (bare : Fragment.reference? last.fragment = none)
    (short : walks.length < assets.config.limits.referenceHops)
    (direct : ∀ walk ∈ walks.tail, walk.reference.isIdRef = false)
    (shallow : ∀ walk ∈ walks,
      (Scan.ofDocument assets.config.limits.nestingDepth walk.document).complete) :
    ((∃ final, resolve assets fragment (some enclosing) true session =
        .ok (some last.fragment) final) ↔ TellApart walks) ∧
      (¬ TellApart walks → ∃ final, resolve assets fragment (some enclosing) true session =
        .ok none final) ∧
      (NameAlike walks → TellApart walks) := by
  obtain ⟨final, hresolve⟩ := followFragments_of_route (.refl assets session.store) route bare short
    (fun _ _ => Or.inl rfl) direct shallow List.nodup_nil
  rw [List.append_nil] at hresolve
  have hnodup : TellApart walks ↔ (walks.map Walk.hop).Nodup :=
    ⟨route.nodup_hops bare, tellApart_of_nodup⟩
  refine ⟨⟨?_, fun apart => ?_⟩, fun mixed => ?_, route.tellApart⟩
  · rintro ⟨_, hfound⟩
    by_contra mixed
    rw [if_neg (mt hnodup.2 mixed)] at hresolve
    cases hresolve.symm.trans hfound
  · rw [if_pos (hnodup.1 apart)] at hresolve
    exact ⟨final, hresolve⟩
  · rw [if_neg (mt hnodup.2 mixed)] at hresolve
    exact ⟨final, hresolve⟩

theorem answers_end_of_chained :
    ∃ found final, resolve ⟨⟨[], []⟩, {}⟩ chainStart (some .null) true ⟨chained, .empty⟩ =
      .ok (some found) final ∧ found.text? "type" = some "string" := by
  let session : Session := ⟨chained, .empty⟩
  let found := routeFrom ⟨⟨[], []⟩, {}⟩ session.store 3 ⟨chainStart, .null, none⟩
  have checked : Fragment.reference? found.2.fragment = none ∧ found.1.length < 10 ∧
      (∀ walk ∈ found.1.tail, walk.reference.isIdRef = false) ∧
      (∀ walk ∈ found.1, (Scan.ofDocument 10 walk.document).complete) ∧
      (∀ walk ∈ found.1, ∀ other ∈ found.1, walk.reference.stem? = other.reference.stem? →
        walk.reference.standard = other.reference.standard) ∧
      found.2.fragment.text? "type" = some "string" := by decide +kernel
  obtain ⟨bare, short, direct, shallow, alike, htype⟩ := checked
  obtain ⟨ends, _, apart⟩ := answers_end_iff_tellApart (route_routeFrom 3 _) bare short direct
    shallow
  obtain ⟨final, hfound⟩ := ends.2 (apart alike)
  exact ⟨_, final, hfound, htype⟩

/-- A file for each of two bundles, both with the same stem: a definition of the first one refers to
    the one of that name in the second, which is a text. -/
def twoStandards : Assets where
  files :=
    ⟨[(["r"], .directory), (["r", "json-schema"], .directory),
      (["r", "json-schema", "A.json"], .file ("\x7b\"definitions\":\x7b\"X\":\x7b\"$ref\":" ++
        "\"http://redfish.dmtf.org/schemas/swordfish/v1/A.json#/definitions/X\"\x7d\x7d\x7d").toUTF8),
      (["s"], .directory), (["s", "json-schema"], .directory),
      (["s", "json-schema", "A.json"],
        .file "\x7b\"definitions\":\x7b\"X\":\x7b\"type\":\"string\"\x7d\x7d\x7d".toUTF8)], []⟩
  config := { assets := { redfishBundle := ⟨"r"⟩, swordfishBundle := ⟨"s"⟩ } }

/-- A chain of references that ends need not be followed to its end: here its two walks go into two
    documents by one hop. -/
theorem answers_end_not_always :
    ¬ ∀ (assets : Assets) (fragment enclosing : Json) (session : Session) (walks : List Walk)
      (last : Spot), Route assets session.store ⟨fragment, enclosing, none⟩ walks last →
      Fragment.reference? last.fragment = none →
      walks.length < assets.config.limits.referenceHops →
      (∀ walk ∈ walks.tail, walk.reference.isIdRef = false) →
      (∀ walk ∈ walks,
        (Scan.ofDocument assets.config.limits.nestingDepth walk.document).complete) →
      ∃ final, resolve assets fragment (some enclosing) true session =
        .ok (some last.fragment) final := by
  intro answers
  let found := routeFrom twoStandards Session.start.store 2 ⟨chainStart, .null, none⟩
  have checked : Fragment.reference? found.2.fragment = none ∧ found.1.length < 10 ∧
      (∀ walk ∈ found.1.tail, walk.reference.isIdRef = false) ∧
      (∀ walk ∈ found.1, (Scan.ofDocument 10 walk.document).complete) ∧
      ∃ answer left, resolve twoStandards chainStart (some .null) true .start = .ok answer left ∧
        answer.isNone := by decide +kernel
  obtain ⟨bare, short, direct, shallow, answer, left, hcut, hnone⟩ := checked
  obtain ⟨final, hfound⟩ := answers twoStandards chainStart .null .start found.1 found.2
    (route_routeFrom 2 _) bare short direct shallow
  cases hcut.symm.trans hfound
  simp at hnone

end ResourceModel.Resolution

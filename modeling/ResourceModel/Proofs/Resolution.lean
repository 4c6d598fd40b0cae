import ResourceModel.Proofs.Registry.Version
import ResourceModel.Proofs.Resolution.Route

set_option autoImplicit false

/-! # What a chase registers

A chase registers what the documents mention in which it walks, in the order in which it walks, and
nothing else. So the version in which a schema is held after a chase is that of the first mention
with a version in these documents, whatever the references are that the chase follows. -/

namespace ResourceModel.Resolution

open Registry (firstVersion?)

/-! ## Walks -/

/-- The schemas that a document mentions, in the order in which they are registered. -/
def mentionsIn (assets : Assets) (document : Json) : List Mention :=
  (Scan.ofDocument assets.config.limits.nestingDepth document).mentions

/-- The walks of a chase, in their order. -/
def walks (assets : Assets) (recursive : Bool) :
    (hops : Nat) → (taken : List Hop) → Spot → Session → List Walk
  | 0, _, _, _ => []
  | hops + 1, taken, spot, session =>
    match turn assets recursive taken spot session with
    | .ok (.walked walk) changed =>
      walk :: match walk.located? with
        | some fragment =>
          walks assets recursive hops (walk.hop :: taken) (walk.spot fragment) changed
        | none => []
    | _ => []

/-- The documents in which a chase walks, in their order. -/
def walked (assets : Assets) (fragment enclosing : Json) (recursive : Bool) (session : Session) :
    List Json :=
  (walks assets recursive assets.config.limits.referenceHops [] ⟨fragment, enclosing, none⟩
    session).map Walk.document

variable {assets : Assets} {recursive : Bool}

/-- What a turn leaves: a chase that ends registers nothing, and a walk registers what the document
    mentions that it leads into. -/
theorem turn_cases {taken : List Hop} {spot : Spot} {session final : Session} {result : Turn}
    (h : turn assets recursive taken spot session = .ok result final) :
    (∃ found, result = .ended found ∧ final.registry = session.registry) ∨
      ∃ walk, result = .walked walk ∧
        (Scan.ofDocument assets.config.limits.nestingDepth walk.document).complete ∧
        final.registry = session.registry.addDependencies assets
          (ownerOf? walk.reference walk.stem)
          (Scan.ofDocument assets.config.limits.nestingDepth walk.document).references := by
  rcases turn_ends_or_goes session.store h with ⟨_, ⟨found, rfl⟩, rfl⟩ | ⟨reference, _, _, halong⟩
  · exact Or.inl ⟨found, rfl, rfl⟩
  · unfold turnAlong at halong
    by_cases hrepeated : Hop.along reference spot.stem ∈ taken
    · rw [if_pos hrepeated] at halong
      cases halong
      exact Or.inl ⟨_, rfl, rfl⟩
    · rw [if_neg hrepeated] at halong
      obtain ⟨target, _, hreading, hwalk⟩ := Step.bind_eq_ok.1 halong
      obtain ⟨store, _, rfl⟩ := Session.reading_eq_ok.1 hreading
      cases target with
      | none =>
        cases hwalk
        exact Or.inl ⟨_, rfl, rfl⟩
      | some document =>
        obtain ⟨_, _, hscan, hanswer⟩ := Step.bind_eq_ok.1 hwalk
        cases hanswer
        obtain ⟨registry, hadd, rfl⟩ := Session.registering_eq_ok.1 hscan
        obtain ⟨complete, rfl⟩ := Registry.addScan_eq_ok.1 hadd
        exact Or.inr ⟨_, rfl, complete, rfl⟩

theorem registry_of_ended {taken : List Hop} {spot : Spot} {session final : Session}
    {found : Option Json} (h : turn assets recursive taken spot session = .ok (.ended found) final) :
    final.registry = session.registry := by
  rcases turn_cases h with ⟨_, _, hregistry⟩ | ⟨_, hwalked, _⟩
  · exact hregistry
  · cases hwalked

theorem registry_of_walked {taken : List Hop} {spot : Spot} {session final : Session} {walk : Walk}
    (h : turn assets recursive taken spot session = .ok (.walked walk) final) :
    (Scan.ofDocument assets.config.limits.nestingDepth walk.document).complete ∧
      final.registry = session.registry.addDependencies assets
        (ownerOf? walk.reference walk.stem)
        (Scan.ofDocument assets.config.limits.nestingDepth walk.document).references := by
  rcases turn_cases h with ⟨_, hended, _⟩ | ⟨_, hwalked, complete, hregistry⟩
  · cases hended
  · cases hwalked
    exact ⟨complete, hregistry⟩

/-- A reference along which a chase goes is walked if it leads into a document and its hop is new. -/
theorem turn_of_opens {taken : List Hop} {spot : Spot} {session final : Session} {result : Turn}
    {walk : Walk} {store : Store} (agrees : store.Agrees assets session.store)
    (opens : Opens assets store spot walk) (goes : Goes recursive taken walk.reference)
    (fresh : walk.hop ∉ taken)
    (h : turn assets recursive taken spot session = .ok result final) : result = .walked walk := by
  obtain ⟨turns, _⟩ := turns_of_turn agrees h
  have found : ¬ store.Lacks assets walk.reference := by
    intro lacks
    have hleads := opens.leads
    rw [led?_eq_none_iff.2 lacks] at hleads
    cases hleads
  cases turns with
  | bare bare =>
    obtain ⟨raw, hraw, _⟩ := opens.carries
    simp [bare] at hraw
  | shallow later hshallow =>
    rcases goes with first | ⟨deep, _⟩
    · exact absurd first later
    · simp [hshallow] at deep
  | idRef later carries hid =>
    obtain rfl := carries.unique opens.carries
    rcases goes with first | ⟨_, direct⟩
    · exact absurd first later
    · simp [hid] at direct
  | repeated carries _ hrepeated =>
    obtain rfl := carries.unique opens.carries
    rw [Walk.hop, opens.stem] at fresh
    exact absurd hrepeated fresh
  | lost _ carries _ _ lacks =>
    obtain rfl := carries.unique opens.carries
    exact absurd lacks found
  | unfound _ carries lacks =>
    obtain rfl := carries.unique opens.carries
    exact absurd lacks found
  | walked opens' => rw [opens'.unique opens]

/-! ## What is registered -/

theorem walks_of_astray {hops : Nat} {taken : List Hop} {spot : Spot} {session changed : Session}
    {walk : Walk} (h : turn assets recursive taken spot session = .ok (.walked walk) changed)
    (hlocated : walk.located? = none) :
    walks assets recursive (hops + 1) taken spot session = [walk] := by
  rw [walks, h]
  simp only [hlocated]

theorem walks_of_onward {hops : Nat} {taken : List Hop} {spot : Spot} {session changed : Session}
    {walk : Walk} {fragment : Json}
    (h : turn assets recursive taken spot session = .ok (.walked walk) changed)
    (hlocated : walk.located? = some fragment) :
    walks assets recursive (hops + 1) taken spot session =
      walk :: walks assets recursive hops (walk.hop :: taken) (walk.spot fragment) changed := by
  rw [walks, h]
  simp only [hlocated]

theorem walks_of_ended {hops : Nat} {taken : List Hop} {spot : Spot} {session changed : Session}
    {found : Option Json}
    (h : turn assets recursive taken spot session = .ok (.ended found) changed) :
    walks assets recursive (hops + 1) taken spot session = [] := by
  rw [walks, h]

/-- A walk registers what the document mentions that it leads into. -/
theorem entries_of_walked {taken : List Hop} {spot : Spot} {session final : Session} {walk : Walk}
    (h : turn assets recursive taken spot session = .ok (.walked walk) final) :
    final.registry.entries =
      (session.registry.registerMentions assets (mentionsIn assets walk.document)).entries := by
  rw [(registry_of_walked h).2]
  exact Registry.entries_addDependencies assets _ _ _

/-- A chase that comes to its end has registered what the documents mention in which it walked, one
    document after the other. -/
theorem entries_followFragments {hops : Nat} {taken : List Hop} {spot : Spot}
    {session final : Session} {found : Option Json}
    (h : followFragments assets recursive hops taken spot session = .ok found final) :
    final.registry.entries =
      (session.registry.registerMentions assets
        ((walks assets recursive hops taken spot session).flatMap fun walk =>
          mentionsIn assets walk.document)).entries := by
  induction hops generalizing taken spot session with
  | zero =>
    cases h
    rfl
  | succ hops ih =>
    rcases followFragments_succ_eq_ok.1 h with hturn | ⟨walk, hturn, hlocated, rfl⟩ |
      ⟨walk, fragment, middle, hturn, hlocated, hrest⟩
    · rw [walks_of_ended hturn, registry_of_ended hturn]
      rfl
    · rw [walks_of_astray hturn hlocated, List.flatMap_singleton]
      exact entries_of_walked hturn
    · -- the turn registers what its document mentions, the hops that are left what theirs do
      rw [walks_of_onward hturn hlocated, List.flatMap_cons, Registry.registerMentions_append,
        ih hrest]
      exact Registry.entries_registerMentions_congr assets _ (entries_of_walked hturn)

theorem entries_resolve {fragment enclosing : Json} {session final : Session} {found : Option Json}
    (h : resolve assets fragment (some enclosing) recursive session = .ok found final) :
    final.registry.entries =
      (session.registry.registerMentions assets
        ((walked assets fragment enclosing recursive session).flatMap (mentionsIn assets))).entries := by
  rw [walked, List.flatMap_map]
  exact entries_followFragments h

/-- After a chase a schema is held in the version that it had, or else in that of its first mention
    with a version in the documents in which the chase walked. -/
theorem version?_resolve {fragment enclosing : Json} {session final : Session}
    {found : Option Json}
    (h : resolve assets fragment (some enclosing) recursive session = .ok found final)
    (id : String) :
    final.registry.version? id =
      (session.registry.version? id).or (firstVersion? assets id
        ((walked assets fragment enclosing recursive session).flatMap (mentionsIn assets))) := by
  rw [Registry.version?_of_entries (entries_resolve h), Registry.version?_registerMentions]

/-! ## Unions of versions -/

/-- The schema that the last alternative with a reference mentions, of a union at a pointer into a
    document. -/
def lastAlternative? (document : Json) (pointer : List String) : Option Mention :=
  ((Pointer.strict? document pointer).bind fun union => union.items? "anyOf").bind fun alternatives =>
    (Fragment.lastReference? alternatives).bind Mention.ofUri?

/-- A reference of a fragment to a definition of a schema that is a union, whose last alternative with
    a reference mentions the schema in a version. -/
structure UnionLink (assets : Assets) (store : Store) (fragment : Json) (id : String) where
  raw : String
  reference : Reference
  name : String
  document : Json
  mentioned : Mention
  version : Version
  carried : Fragment.reference? fragment = some raw
  parsed : Reference.parse raw = .ok reference
  stem : reference.stem? = some id
  pointer : reference.pointer = ["definitions", name]
  read : ∃ changed, Store.target assets reference store = .ok (some document) changed
  last : lastAlternative? document reference.pointer = some mentioned
  own : mentioned.id = id
  versioned : mentioned.tag.bind Version.parse? = some version

/-- The link of a fragment to a union of versions of a schema, if it is one. -/
def unionLink? (assets : Assets) (store : Store) (fragment : Json) (id : String) :
    Option (UnionLink assets store fragment id) :=
  match carried : Fragment.reference? fragment with
  | none => none
  | some raw =>
    match parsed : Reference.parse raw with
    | .error _ => none
    | .ok reference =>
      match read : Store.target assets reference store, pointer : reference.pointer with
      | .ok (some document) changed, ["definitions", name] =>
        match last : lastAlternative? document reference.pointer with
        | none => none
        | some mentioned =>
          match versioned : mentioned.tag.bind Version.parse? with
          | none => none
          | some version =>
            if h : reference.stem? = some id ∧ mentioned.id = id then
              some ⟨raw, reference, name, document, mentioned, version, carried, parsed, h.1,
                pointer, ⟨changed, read⟩, last, h.2, versioned⟩
            else none
      | _, _ => none

namespace UnionLink

variable {store : Store} {fragment : Json} {id : String}

theorem opens (link : UnionLink assets store fragment id) (enclosing : Json) :
    Opens assets store ⟨fragment, enclosing, none⟩ ⟨link.reference, none, link.document⟩ where
  carries := ⟨link.raw, link.carried, link.parsed⟩
  stem := rfl
  leads := by
    obtain ⟨_, hread⟩ := link.read
    rw [led?, if_neg (by simp [Reference.isLocal, link.stem])]
    exact (Store.named?_of_target hread).1

/-- The first document in which a chase along the link walks is the one with the union. -/
theorem walked_eq_cons {session final : Session} {enclosing found : Json}
    (link : UnionLink assets session.store fragment id)
    (h : resolve assets fragment (some enclosing) recursive session = .ok (some found) final) :
    (Scan.ofDocument assets.config.limits.nestingDepth link.document).complete ∧
      ∃ rest, walked assets fragment enclosing recursive session = link.document :: rest := by
  unfold walked
  simp only [resolve] at h
  cases hhops : assets.config.limits.referenceHops with
  | zero =>
    rw [hhops] at h
    cases h
  | succ hops =>
    rw [hhops] at h
    -- the first turn walks along the link, whatever becomes of the chase after that
    have hwalked : ∀ result changed, turn assets recursive [] ⟨fragment, enclosing, none⟩ session =
        .ok result changed → result = .walked ⟨link.reference, none, link.document⟩ :=
      fun _ _ hturn => turn_of_opens (.refl assets session.store) (link.opens enclosing)
        (Or.inl rfl) (by simp) hturn
    rcases followFragments_succ_eq_ok.1 h with hturn | ⟨walk, hturn, hlocated, _⟩ |
      ⟨walk, located, middle, hturn, hlocated, _⟩
    · cases hwalked _ _ hturn
    · cases hwalked _ _ hturn
      rw [walks_of_astray hturn hlocated]
      exact ⟨(registry_of_walked hturn).1, _, rfl⟩
    · cases hwalked _ _ hturn
      rw [walks_of_onward hturn hlocated]
      exact ⟨(registry_of_walked hturn).1, _, rfl⟩

/-- A scan that comes to its end finds the last alternative of a union that stands in definitions. -/
theorem mem_mentionsIn (link : UnionLink assets store fragment id)
    (hdefinitions : link.document.has "definitions" = true)
    (complete : (Scan.ofDocument assets.config.limits.nestingDepth link.document).complete) :
    link.mentioned ∈ mentionsIn assets link.document := by
  obtain ⟨definitions, hget⟩ := Option.isSome_iff_exists.1 hdefinitions
  obtain ⟨alternatives, halternatives, hlast⟩ := Option.bind_eq_some_iff.1 link.last
  obtain ⟨union, hlocated, hitems⟩ := Option.bind_eq_some_iff.1 halternatives
  obtain ⟨uri, huri, hmentioned⟩ := Option.bind_eq_some_iff.1 hlast
  obtain ⟨chosen, hchosen, hreference⟩ := List.mem_filterMap.1 (List.mem_of_getLast? huri)
  have hkey : Pointer.keyIn link.document "definitions" = "definitions" := by
    simp [Pointer.keyIn, hdefinitions]
  simp only [link.pointer, Pointer.strict?, Pointer.step?, hkey, hget] at hlocated
  cases definitions with
  | object rows =>
    cases hrow : (Json.object rows).get? (Pointer.keyIn (.object rows) link.name) with
    | none => simp [hrow] at hlocated
    | some found =>
      rw [hrow] at hlocated
      cases hlocated
      refine (Scan.mem_mentions_ofDocument complete).2 ⟨_, uri, hget, ?_, hmentioned⟩
      exact .alternative rfl (Table.mem_of_get? hrow) hitems hchosen hreference
  | _ => simp [Json.get?] at hlocated

end UnionLink

/-- A document without definitions mentions nothing. -/
theorem mentionsIn_of_no_definitions {document : Json}
    (h : document.has "definitions" = false) : mentionsIn assets document = [] := by
  have hget : document.get? "definitions" = none :=
    Option.isNone_iff_eq_none.1 (Option.isSome_eq_false_iff.1 h)
  simp [mentionsIn, Scan.mentions, Scan.ofDocument, hget]

/-- A chase along a link to a union follows the last alternative. The registry holds the schema in
    the version of that alternative exactly if this is the version of the first mention of the schema
    that has one: in the definitions of the document with the union, or, where that document has no
    definitions, in the documents in which the chase goes on. -/
theorem version_held_iff_first {session final : Session} {fragment enclosing found : Json}
    {id : String} (link : UnionLink assets session.store fragment id)
    (absent : session.registry.get? id = none)
    (h : resolve assets fragment (some enclosing) true session = .ok (some found) final) :
    (∃ held, final.registry.version? id = some held ∧ held.same link.version = true) ↔
      ∃ first, first.same link.version = true ∧
        firstVersion? assets id
          (if link.document.has "definitions" then mentionsIn assets link.document
            else (walked assets fragment enclosing true session).tail.flatMap
              (mentionsIn assets)) = some first := by
  obtain ⟨complete, rest, hwalked⟩ := link.walked_eq_cons h
  have hversion := version?_resolve h id
  rw [Registry.version?_of_absent absent, Option.none_or, hwalked, List.flatMap_cons,
    Registry.firstVersion?_append] at hversion
  rw [hversion, hwalked, List.tail_cons]
  by_cases hdefinitions : link.document.has "definitions" = true
  · -- the union itself gives the schema a version, so the later documents do not count
    have hmem := link.mem_mentionsIn hdefinitions complete
    have hsome := Registry.firstVersion?_isSome assets link.versioned hmem
    rw [link.own] at hsome
    obtain ⟨first, hfirst⟩ := Option.isSome_iff_exists.1 hsome
    rw [if_pos hdefinitions, hfirst, Option.some_or]
    simp only [and_comm]
  · rw [if_neg hdefinitions, mentionsIn_of_no_definitions (by simpa using hdefinitions)]
    simp only [firstVersion?, List.findSome?_nil, Option.none_or, and_comm]

/-- The start of a reference to a document of the bundle that is written out. -/
def published : String :=
  "http://redfish.dmtf.org/schemas/v1/"

/-- A fragment that refers to the unversioned document of `Power`. -/
def anyPower : Json :=
  .object [("$ref", .string (published ++ "Power.json#/definitions/Power"))]

/-- A bundle with two versions of `Power`, whose unversioned document is a union of references. -/
def unionOfPower (alternatives : List String) : Assets where
  files :=
    let defining (power : String) : String :=
      "\x7b\"definitions\":\x7b\"Power\":\x7b" ++ power ++ "\x7d\x7d\x7d"
    let rows := alternatives.map fun uri => "\x7b\"$ref\":\"" ++ uri ++ "\"\x7d"
    Store.bundleFiles
      [("Power.json", defining ("\"anyOf\":[" ++ ",".intercalate rows ++ "]")),
      ("Power.v1_0_0.json", defining "\"type\":\"object\""),
      ("Power.v1_7_6.json", defining "\"type\":\"object\"")]
  config := {}

/-- The last alternative is not the first mention here, but both are of one version. -/
theorem version_held_of_sameVersion :
    let assets := unionOfPower
      ["Power.v1_7_6.json#/definitions/Fan", "Power.v1_7_6.json#/definitions/Power"]
    ∃ (link : UnionLink assets .empty anyPower "Power") (found : Json) (final : Session),
      resolve assets anyPower (some (.object [])) true .start = .ok (some found) final ∧
      link.version = ⟨"v1_7_6", 1, 7, 6⟩ ∧
      ∃ held, final.registry.version? "Power" = some held ∧ held.same link.version = true := by
  intro assets
  obtain ⟨found, final, h, linked⟩ : ∃ found final,
      resolve assets anyPower (some (.object [])) true .start = .ok (some found) final ∧
        (unionLink? assets .empty anyPower "Power").any (fun link =>
          link.version == ⟨"v1_7_6", 1, 7, 6⟩ && (link.document.has "definitions" &&
            (firstVersion? assets "Power" (mentionsIn assets link.document)).any
              (·.same link.version))) = true := by
    decide +kernel
  obtain ⟨link, _, hlink⟩ := (Option.any_eq_true _ _).1 linked
  rw [Bool.and_eq_true, Bool.and_eq_true] at hlink
  obtain ⟨hversion, hdefinitions, hmentions⟩ := hlink
  obtain ⟨first, hfirst, hsame⟩ := (Option.any_eq_true _ _).1 hmentions
  refine ⟨link, found, final, h, eq_of_beq hversion,
    (version_held_iff_first link rfl h).2 ⟨first, hsame, ?_⟩⟩
  rw [if_pos hdefinitions]
  exact hfirst

/-- The registry need not hold a schema in the version of the last alternative, in which the property
    was found: here the first alternative has given its version to the schema. -/
theorem version_held_not_last :
    ¬ ∀ (assets : Assets) (session final : Session) (fragment enclosing found : Json) (id : String)
      (link : UnionLink assets session.store fragment id), session.registry.get? id = none →
      resolve assets fragment (some enclosing) true session = .ok (some found) final →
      ∃ held, final.registry.version? id = some held ∧ held.same link.version = true := by
  intro holds
  let assets := unionOfPower [published ++ "Power.v1_0_0.json#/definitions/Power",
    published ++ "Power.v1_7_6.json#/definitions/Power"]
  obtain ⟨found, final, h, hfirst, linked⟩ : ∃ found final,
      resolve assets anyPower (some (.object [])) true .start = .ok (some found) final ∧
        final.registry.version? "Power" = some ⟨"v1_0_0", 1, 0, 0⟩ ∧
        (unionLink? assets .empty anyPower "Power").any
          (fun link => link.version == ⟨"v1_7_6", 1, 7, 6⟩) = true := by
    decide +kernel
  obtain ⟨link, _, hversion⟩ := (Option.any_eq_true _ _).1 linked
  obtain ⟨held, hheld, hsame⟩ := holds assets .start final _ _ found "Power" link rfl h
  rw [hfirst] at hheld
  cases hheld
  rw [eq_of_beq hversion] at hsame
  simp [Version.same] at hsame

end ResourceModel.Resolution

import ResourceModel.Proofs.Resolution.Outcome

set_option autoImplicit false

/-! # Where the type of a fragment is read

A fragment that declares no type has the one that is declared at the end of the chase along its
references. Such a chase follows every reference that it meets, also the ones in the items and the
alternatives of a fragment that declares a type. So the first declared type along a chain of
references counts only if the chase ends there, or if the type at its end happens to be the same. -/

namespace ResourceModel.Resolution

variable {assets : Assets} {store : Store} {recursive : Bool}

/-! ## What a chase answers -/

/-- What a chase answers from a spot that has taken the given hops and is allowed so many more. -/
inductive Yields (assets : Assets) (store : Store) (recursive : Bool) :
    Nat → List Hop → Spot → Option Json → Prop where
  | exhausted (taken : List Hop) (spot : Spot) : Yields assets store recursive 0 taken spot none
  | ended {hops : Nat} {taken : List Hop} {spot : Spot} {found : Option Json}
      (turns : Turns assets store recursive taken spot (.ended found)) :
      Yields assets store recursive (hops + 1) taken spot found
  | astray {hops : Nat} {taken : List Hop} {spot : Spot} {walk : Walk}
      (turns : Turns assets store recursive taken spot (.walked walk))
      (located : walk.located? = none) :
      Yields assets store recursive (hops + 1) taken spot none
  | onward {hops : Nat} {taken : List Hop} {spot : Spot} {walk : Walk} {fragment : Json}
      {found : Option Json} (turns : Turns assets store recursive taken spot (.walked walk))
      (located : walk.located? = some fragment)
      (further :
        Yields assets store recursive hops (walk.hop :: taken) (walk.spot fragment) found) :
      Yields assets store recursive (hops + 1) taken spot found

/-- What a chase answers is what the rules for its turns add up to. -/
theorem yields_of_followFragments {hops : Nat} {taken : List Hop} {spot : Spot}
    {session final : Session} {found : Option Json} (agrees : store.Agrees assets session.store)
    (h : followFragments assets recursive hops taken spot session = .ok found final) :
    Yields assets store recursive hops taken spot found := by
  induction hops generalizing taken spot session with
  | zero =>
    cases h
    exact .exhausted taken spot
  | succ hops ih =>
    rcases followFragments_succ_eq_ok.1 h with hturn | ⟨walk, hturn, located, rfl⟩ |
      ⟨walk, fragment, middle, hturn, located, hrest⟩
    · exact .ended (turns_of_turn agrees hturn).1
    · exact .astray (turns_of_turn agrees hturn).1 located
    · obtain ⟨turns, agrees⟩ := turns_of_turn agrees hturn
      exact .onward turns located (ih agrees hrest)

/-- A chase answers whatever the rules for its turns add up to. -/
theorem followFragments_of_yields {hops : Nat} {taken : List Hop} {spot : Spot}
    {session : Session} {found : Option Json} (agrees : store.Agrees assets session.store)
    (h : Yields assets store recursive hops taken spot found) :
    ∃ final, followFragments assets recursive hops taken spot session = .ok found final := by
  induction h generalizing session with
  | exhausted => exact ⟨session, rfl⟩
  | ended turns =>
    obtain ⟨final, hturn⟩ := turn_of_turns agrees turns
    exact ⟨final, followFragments_succ_eq_ok.2 (Or.inl hturn)⟩
  | astray turns located =>
    obtain ⟨final, hturn⟩ := turn_of_turns agrees turns
    exact ⟨final, followFragments_succ_eq_ok.2 (Or.inr (Or.inl ⟨_, hturn, located, rfl⟩))⟩
  | onward turns located _ ih =>
    obtain ⟨middle, hturn⟩ := turn_of_turns agrees turns
    obtain ⟨final, hrest⟩ := ih (turns_of_turn agrees hturn).2
    refine ⟨final, followFragments_succ_eq_ok.2 (Or.inr (Or.inr ?_))⟩
    exact ⟨_, _, middle, hturn, located, hrest⟩

/-- What a turn makes of a spot is determined. -/
theorem Turns.unique {taken : List Hop} {spot : Spot} {result other : Turn}
    (h : Turns assets store recursive taken spot result)
    (h' : Turns assets store recursive taken spot other) : result = other := by
  have agrees : store.Agrees assets (Session.store ⟨store, .empty⟩) := .refl assets store
  obtain ⟨_, hturn⟩ := turn_of_turns agrees h
  obtain ⟨_, hturn'⟩ := turn_of_turns agrees h'
  rw [hturn] at hturn'
  cases hturn'
  rfl

/-- A fragment that is answered lies at the end of a route. -/
theorem Yields.route {hops : Nat} {taken : List Hop} {spot : Spot} {answer : Option Json}
    (h : Yields assets store recursive hops taken spot answer) {found : Json}
    (hfound : answer = some found) :
    ∃ walks last, Route assets store spot walks last ∧ last.fragment = found := by
  induction h with
  | exhausted => cases hfound
  | @ended _ _ spot _ turns =>
    refine ⟨[], spot, .here spot, ?_⟩
    cases turns with
    | bare | shallow | idRef | lost => exact Option.some.inj hfound
    | repeated | unfound => cases hfound
  | astray => cases hfound
  | @onward _ _ _ walk _ _ turns located _ ih =>
    obtain ⟨walks, last, route, hlast⟩ := ih hfound
    cases turns with
    | walked opens => exact ⟨walk :: walks, last, .onward opens located route, hlast⟩

/-! ## The first walk -/

/-- After its first walk a chase that is not recursive answers the fragment that it has come to. -/
theorem Yields.of_shallow {hops : Nat} {taken : List Hop} {spot : Spot} {found : Json}
    (later : taken ≠ []) (h : Yields assets store false hops taken spot (some found)) :
    0 < hops ∧ spot.fragment = found := by
  cases h with
  | ended turns =>
    refine ⟨Nat.succ_pos _, ?_⟩
    cases turns <;> rfl
  | onward turns =>
    cases turns with
    | walked _ goes =>
      rcases goes with first | ⟨hdeep, _⟩
      · exact absurd first later
      · cases hdeep

/-- The first walk of a chase is taken whether the chase is recursive or not. -/
theorem Turns.walked_first {recursive other : Bool} {spot : Spot} {walk : Walk}
    (h : Turns assets store recursive [] spot (.walked walk)) :
    Turns assets store other [] spot (.walked walk) := by
  cases h with
  | walked opens _ fresh complete => exact .walked opens (Or.inl rfl) fresh complete

/-- Where the first walk from a fragment leads, if its reference is followed once to another one. -/
theorem Yields.first_walk {hops : Nat} {spot : Spot} {found : Json}
    (h : Yields assets store false hops [] spot (some found)) (moved : found ≠ spot.fragment) :
    ∃ walk more, hops = more + 2 ∧ Turns assets store false [] spot (.walked walk) ∧
      walk.located? = some found := by
  cases h with
  | ended turns =>
    cases turns with
    | bare | shallow | idRef | lost => exact absurd rfl moved
  | @onward hops _ _ walk fragment _ turns located further =>
    obtain ⟨hpositive, rfl⟩ := further.of_shallow (List.cons_ne_nil _ _)
    refine ⟨walk, hops - 1, by omega, turns, located⟩

/-- Whether a recursive chase that has come to a fragment by its first walk ends there: the fragment
    carries no reference, or one that points at an id, or one that names a document that is not
    there and does not repeat the hop. -/
inductive Stays (assets : Assets) (store : Store) (walk : Walk) (target : Json) : Prop where
  | bare (h : Fragment.reference? target = none)
  | idRef {reference : Reference} (carries : Carries target reference)
      (h : reference.isIdRef = true)
  | lost {reference : Reference} (carries : Carries target reference)
      (fresh : Hop.along reference (walk.spot target).stem ≠ walk.hop)
      (h : store.Lacks assets reference)

theorem Stays.turns {walk : Walk} {target : Json} (h : Stays assets store walk target) :
    Turns assets store true [walk.hop] (walk.spot target) (.ended (some target)) := by
  have later : [walk.hop] ≠ [] := List.cons_ne_nil _ _
  cases h with
  | bare h => exact .bare h
  | idRef carries h => exact .idRef later carries h
  | @lost reference carries fresh h =>
    cases hid : reference.isIdRef with
    | true => exact .idRef later carries hid
    | false => exact .lost later carries (Or.inr ⟨rfl, hid⟩) (by simpa using fresh) h

/-! ## The declared type -/

/-- The type that is read off the end of a chase. -/
def typeAt (answer : Option Json) : SemanticType :=
  (answer.bind Fragment.type?).getD .unrecognized

/-- Of a fragment that declares no type itself, the type is the one at the end of the chase along
    its references. -/
theorem typeOf_eq_ok_iff {fragment enclosing : Json} {session : Session} {type : SemanticType}
    (untyped : Fragment.type? fragment = none) :
    (∃ final, typeOf assets fragment (some enclosing) session = .ok type final) ↔
      ∃ answer, Yields assets session.store true assets.config.limits.referenceHops []
        ⟨fragment, enclosing, none⟩ answer ∧ typeAt answer = type := by
  unfold typeOf
  rw [untyped]
  constructor
  · rintro ⟨final, h⟩
    obtain ⟨answer, middle, hresolve, hanswer⟩ := Step.bind_eq_ok.1 h
    cases hanswer
    exact ⟨answer, yields_of_followFragments (.refl assets session.store) hresolve, rfl⟩
  · rintro ⟨answer, answers, rfl⟩
    obtain ⟨final, hresolve⟩ :=
      followFragments_of_yields (.refl assets session.store) answers
    exact ⟨final, Step.bind_eq_ok.2 ⟨answer, final, hresolve, rfl⟩⟩

/-- If a fragment without a type refers to one that declares a type, then this is its type where the
    chase ends there. In general its type is this one exactly if the chase that goes on from there
    reads it at its end, and a fragment that this chase answers lies at the end of a route from
    there. -/
theorem typeOf_eq_declared_iff {fragment target : Json} {enclosing : Option Json}
    {session middle : Session} {type : SemanticType} (untyped : Fragment.type? fragment = none)
    (once : resolve assets fragment enclosing false session = .ok (some target) middle)
    (typed : Fragment.type? target = some type) :
    ∃ document walk more, enclosing = some document ∧
      Opens assets session.store ⟨fragment, document, none⟩ walk ∧
      walk.located? = some target ∧ assets.config.limits.referenceHops = more + 2 ∧
      (Stays assets session.store walk target →
        ∃ final, typeOf assets fragment enclosing session = .ok type final) ∧
      ((∃ final, typeOf assets fragment enclosing session = .ok type final) ↔
        ∃ answer, Yields assets session.store true (more + 1) [walk.hop] (walk.spot target) answer ∧
          typeAt answer = type) ∧
      ∀ found, Yields assets session.store true (more + 1) [walk.hop] (walk.spot target)
          (some found) →
        ∃ walks last, Route assets session.store (walk.spot target) walks last ∧
          last.fragment = found := by
  have moved : target ≠ fragment := by
    rintro rfl
    simp [typed] at untyped
  obtain _ | document := enclosing
  · cases once
    exact absurd rfl moved
  have honce := yields_of_followFragments (.refl assets session.store) once
  obtain ⟨walk, more, hlimit, turns, located⟩ := honce.first_walk moved
  -- the recursive chase takes the same first walk, and goes on behind it
  have hfirst : Turns assets session.store true [] ⟨fragment, document, none⟩ (.walked walk) :=
    turns.walked_first
  have htype : (∃ final, typeOf assets fragment (some document) session = .ok type final) ↔
      ∃ answer, Yields assets session.store true (more + 1) [walk.hop] (walk.spot target) answer ∧
        typeAt answer = type := by
    rw [typeOf_eq_ok_iff untyped, hlimit]
    refine exists_congr fun answer => and_congr_left fun _ => ⟨fun yields => ?_, fun yields => ?_⟩
    · cases yields with
      | ended ends => cases hfirst.unique ends
      | astray goes located' =>
        cases hfirst.unique goes
        simp [located'] at located
      | onward goes located' further =>
        cases hfirst.unique goes
        cases located.symm.trans located'
        exact further
    · exact .onward hfirst located yields
  have hopens : Opens assets session.store ⟨fragment, document, none⟩ walk := by
    cases hfirst with
    | walked opens => exact opens
  refine ⟨document, walk, more, rfl, hopens, located, hlimit, fun stays => htype.2 ?_, htype,
    fun found yields => yields.route rfl⟩
  exact ⟨some target, .ended stays.turns, by simp [typeAt, typed]⟩

/-- A bound document with a list whose items refer to an id. -/
def idList : Store where
  documents := []
  extensions := []
  bound :=
    [("A", .object [("definitions", .object [("X", .object [("items", .object
      [("$ref", .string "B.json#/definitions/Y/idRef")]), ("type", .string "array")])])])]

theorem typeOf_of_idList :
    ∃ target middle final,
      resolve ⟨⟨[], []⟩, {}⟩ chainStart (some .null) false ⟨idList, .empty⟩ =
        .ok (some target) middle ∧
      Fragment.type? target = some .array ∧
      typeOf ⟨⟨[], []⟩, {}⟩ chainStart (some .null) ⟨idList, .empty⟩ = .ok .array final := by
  let raw := "B.json#/definitions/Y/idRef"
  obtain ⟨target, middle, once, typed, hraw⟩ : ∃ target middle,
      resolve ⟨⟨[], []⟩, {}⟩ chainStart (some .null) false ⟨idList, .empty⟩ =
        .ok (some target) middle ∧ Fragment.type? target = some .array ∧
        Fragment.reference? target = some raw := by decide +kernel
  obtain ⟨_, walk, _, _, _, _, _, stays, _⟩ :=
    typeOf_eq_declared_iff (by decide +kernel : Fragment.type? chainStart = none) once typed
  have hid : (Reference.parse raw).toOption.any Reference.isIdRef = true := by decide +kernel
  cases hparse : Reference.parse raw with
  | error error =>
    rw [hparse] at hid
    simp [Except.toOption] at hid
  | ok reference =>
    rw [hparse] at hid
    obtain ⟨final, htype⟩ := stays (.idRef ⟨raw, hraw, hparse⟩ hid)
    exact ⟨target, middle, final, once, typed, htype⟩

/-- A bound document with a list of texts. -/
def textList : Store where
  documents := []
  extensions := []
  bound :=
    [("A", .object [("definitions", .object [("X", .object [("items", .object
      [("$ref", .string "#/definitions/Y")]), ("type", .string "array")]),
      ("Y", .object [("type", .string "string")])])])]

/-- The type of a fragment need not be the first one that is declared along its references: here the
    fragment refers to a list, and the chase goes on to its items. -/
theorem typeOf_not_first_declared :
    ¬ ∀ (assets : Assets) (fragment enclosing target : Json) (session middle : Session)
      (type : SemanticType), 2 ≤ assets.config.limits.referenceHops →
      Fragment.type? fragment = none →
      resolve assets fragment (some enclosing) false session = .ok (some target) middle →
      Fragment.type? target = some type →
      ∃ final, typeOf assets fragment (some enclosing) session = .ok type final := by
  intro holds
  obtain ⟨target, middle, once, typed⟩ : ∃ target middle,
      resolve ⟨⟨[], []⟩, {}⟩ chainStart (some .null) false ⟨textList, .empty⟩ =
        .ok (some target) middle ∧ Fragment.type? target = some .array := by decide +kernel
  obtain ⟨type, left, hchased, rfl⟩ : ∃ type left,
      typeOf ⟨⟨[], []⟩, {}⟩ chainStart (some .null) ⟨textList, .empty⟩ = .ok type left ∧
        type = .string := by decide +kernel
  obtain ⟨final, hfirst⟩ := holds ⟨⟨[], []⟩, {}⟩ chainStart .null target ⟨textList, .empty⟩ middle
    .array (by decide) (by decide +kernel) once typed
  cases hchased.symm.trans hfirst

end ResourceModel.Resolution

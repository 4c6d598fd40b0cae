import ResourceModel.Proofs.Declaration
import ResourceModel.Proofs.Property
import ResourceModel.Proofs.Resolution.Type

set_option autoImplicit false

/-! # The templates of links

A link is accepted in two steps. It is bound to the fragment of its field first, from which its target
and its getter are read. Then its template is looked up among the ids that the linked resource lists,
and that one is found by a single hop along the reference of the field. -/

namespace ResourceModel

/-! ## A single hop -/

namespace Resolution

variable {assets : Assets} {store : Store} {fragment enclosing target : Json}

/-- Whether a single hop from a fragment comes to another one: it stays at a fragment without a
    reference, and otherwise it goes along the reference to the end of its pointer, in a document that
    can be scanned. A hop has to be left behind it. -/
inductive HopsTo (assets : Assets) (store : Store) (fragment enclosing : Json) : Json → Prop where
  | bare (left : 0 < assets.config.limits.referenceHops)
      (h : Fragment.reference? fragment = none) : HopsTo assets store fragment enclosing fragment
  | walked {walk : Walk} {target : Json} (left : 1 < assets.config.limits.referenceHops)
      (opens : Opens assets store ⟨fragment, enclosing, none⟩ walk)
      (located : walk.located? = some target)
      (complete : (Scan.ofDocument assets.config.limits.nestingDepth walk.document).complete) :
      HopsTo assets store fragment enclosing target

theorem HopsTo.of_yields
    (h : Yields assets store false assets.config.limits.referenceHops [] ⟨fragment, enclosing, none⟩
      (some target)) : HopsTo assets store fragment enclosing target := by
  generalize hlimit : assets.config.limits.referenceHops = hops at h
  cases h with
  | ended turns =>
    cases turns with
    | bare h => exact .bare (by omega) h
    | shallow later | idRef later | lost later => exact absurd rfl later
  | onward turns located further =>
    obtain ⟨positive, rfl⟩ := further.of_shallow (List.cons_ne_nil _ _)
    cases turns with
    | walked opens _ _ complete => exact .walked (by omega) opens located complete

theorem HopsTo.yields (h : HopsTo assets store fragment enclosing target) :
    Yields assets store false assets.config.limits.referenceHops [] ⟨fragment, enclosing, none⟩
      (some target) := by
  cases h with
  | bare left h =>
    obtain ⟨more, hlimit⟩ : ∃ more, assets.config.limits.referenceHops = more + 1 :=
      ⟨assets.config.limits.referenceHops - 1, by omega⟩
    rw [hlimit]
    exact .ended (.bare h)
  | @walked walk _ left opens located complete =>
    obtain ⟨more, hlimit⟩ : ∃ more, assets.config.limits.referenceHops = more + 2 :=
      ⟨assets.config.limits.referenceHops - 2, by omega⟩
    rw [hlimit]
    exact .onward (.walked opens (Or.inl rfl) List.not_mem_nil complete) located
      (.ended (.shallow (List.cons_ne_nil _ _) rfl))

/-- A chase that is not recursive comes to where a single hop leads. -/
theorem resolve_once_iff {session : Session} :
    (∃ final, resolve assets fragment (some enclosing) false session = .ok (some target) final) ↔
      HopsTo assets session.store fragment enclosing target := by
  constructor
  · rintro ⟨final, h⟩
    exact .of_yields (yields_of_followFragments (.refl assets session.store) h)
  · intro h
    exact followFragments_of_yields (.refl assets session.store) h.yields

end Resolution

/-! ## Parameters -/

open Declaration (entries?)

/-- Whether a parameter has what its declaration says, and the defaults where it says nothing. -/
structure LinkParameter.Mirrors (declaration : Json) (parameter : LinkParameter) : Prop where
  id : declaration.text? "Id" = some parameter.id
  field : declaration.text? "Field" = some parameter.field
  entity : parameter.entity = declaration.text? "Entity"
  fromContext : parameter.fromContext =
    ((declaration.get? "FromContext").bind Json.bool?).getD false
  conditions : ∃ declared, entries? declaration "Conditions" = some declared ∧
    List.Forall₂ (fun entry condition => Condition.parse entry = .ok condition) declared
      parameter.conditions

theorem Condition.parseList_eq_ok {declaration : Json} {subject : String}
    {conditions : List Condition} :
    parseList declaration subject = .ok conditions ↔
      ∃ declared, entries? declaration "Conditions" = some declared ∧
        List.Forall₂ (fun entry condition => parse entry = .ok condition) declared conditions := by
  unfold parseList
  simp only [Step.except_bind_eq_ok, Declaration.optionalList_eq_ok, Step.except_mapM_eq_ok]

theorem LinkParameter.mirrors_of_parse {declaration : Json} {link : String}
    {parameter : LinkParameter} (h : parse declaration link = .ok parameter) :
    parameter.Mirrors declaration := by
  obtain ⟨id, hid, hrest⟩ := Step.except_bind_eq_ok.1 h
  obtain ⟨field, hfield, hrest⟩ := Step.except_bind_eq_ok.1 hrest
  obtain ⟨conditions, hconditions, hanswer⟩ := Step.except_bind_eq_ok.1 hrest
  cases hanswer
  exact ⟨Declaration.requiredText_eq_ok.1 hid, Declaration.requiredText_eq_ok.1 hfield, rfl, rfl,
    Condition.parseList_eq_ok.1 hconditions⟩

namespace Link

variable {assets : Assets} {scope : Scope} {declaration : Json}

/-! ## Binding -/

theorem getterOf_eq_linkCollection_iff {fragment : Json} :
    getterOf fragment = .linkCollection ↔ fragment.has "items" = true := by
  unfold getterOf
  split <;> simp_all

/-- A declared link is bound exactly if its field has a target and its parameters can be read. -/
theorem bind_eq_ok {name field classname subject : String} {template : Option String}
    {fragment declaration : Json} {link : Link} :
    bind name field template classname fragment declaration subject = .ok link ↔
      ∃ target declared parameters, targetOf? fragment = some target ∧
        entries? declaration "Parameters" = some declared ∧
        List.Forall₂ (fun entry parameter => LinkParameter.parse entry name = .ok parameter) declared
          parameters ∧
        link = ⟨name, template, field, classname, getterOf fragment, target, parameters⟩ := by
  unfold bind
  cases htarget : targetOf? fragment with
  | none => simp [Step.except_bind_eq_ok, throw, throwThe, MonadExceptOf.throw]
  | some target =>
    simp only [pure_bind, Step.except_bind_eq_ok, Declaration.optionalList_eq_ok,
      Step.except_mapM_eq_ok]
    constructor
    · rintro ⟨declared, hdeclared, parameters, hparameters, hanswer⟩
      cases hanswer
      exact ⟨target, declared, parameters, rfl, hdeclared, hparameters, rfl⟩
    · rintro ⟨target, declared, parameters, ⟨⟩, hdeclared, hparameters, rfl⟩
      exact ⟨declared, hdeclared, parameters, hparameters, rfl⟩

/-- The field that a link is declared for. -/
def fieldOf (declaration : Json) : String :=
  (declaration.text? "Field").getD defaultField

/-- Whether a declaration is accepted up to the check of its template: it has a name and a template,
    the fragment is that of its field, and the link is bound to this one. -/
structure Accepted (scope : Scope) (declaration : Json) (name template : String) (fragment : Json)
    (link : Link) : Prop where
  named : declaration.text? "Name" = some name
  templated : declaration.text? "Template" = some template
  declared : fieldIn? scope.spec (fieldOf declaration) name = some fragment
  bound : bind name (fieldOf declaration) (some template)
    ((declaration.text? "Classname").getD "" ++ name ++ "Links") fragment declaration
    ("link '" ++ name ++ "' of " ++ scope.owner) = .ok link

/-! ## The check of the template -/

theorem lists_iff {fragment : Json} {template : String} :
    lists fragment template = true ↔
      ∃ uris, fragment.items? "uris" = some uris ∧ .string template ∈ uris := by
  unfold lists
  cases fragment.items? "uris" <;> simp [Json.string?_eq_some_iff]

/-- What is left of the building of a link that is accepted. -/
def check (assets : Assets) (scope : Scope) (name template : String) (fragment : Json)
    (link : Link) : Step Session Link := do
  let found ← Resolution.resolve assets fragment (some scope.spec) false
  let target ← Step.require found (.unresolved link.target)
  if lists target template then return link
  else throw (.invalidTemplate template name)

theorem check_eq_ok {name template : String} {fragment : Json} {link answer : Link}
    {session final : Session} :
    check assets scope name template fragment link session = .ok answer final ↔
      answer = link ∧ ∃ target,
        Resolution.resolve assets fragment (some scope.spec) false session =
          .ok (some target) final ∧ lists target template = true := by
  constructor
  · intro h
    obtain ⟨found, middle, hresolve, hrest⟩ := Step.bind_eq_ok.1 h
    obtain ⟨target, rfl, hanswer⟩ := Step.require_bind_eq_ok.1 hrest
    split at hanswer
    · next hlists =>
      cases hanswer
      exact ⟨rfl, target, hresolve, hlists⟩
    · cases hanswer
  · rintro ⟨rfl, target, hresolve, hlists⟩
    refine Step.bind_eq_ok.2 ⟨some target, final, hresolve, ?_⟩
    refine Step.require_bind_eq_ok.2 ⟨target, rfl, ?_⟩
    rw [if_pos hlists]
    rfl

theorem build_of_accepted {name template : String} {fragment : Json} {link : Link}
    (h : Accepted scope declaration name template fragment link) :
    build assets scope declaration = check assets scope name template fragment link := by
  have hname : ∀ subject, Declaration.requiredText declaration "Name" subject = .ok name :=
    fun _ => Declaration.requiredText_eq_ok.2 h.named
  have htemplate : ∀ subject, Declaration.requiredText declaration "Template" subject =
      .ok template := fun _ => Declaration.requiredText_eq_ok.2 h.templated
  have hdeclared := h.declared
  have hbound := h.bound
  unfold fieldOf at hdeclared hbound
  unfold build
  simp only [hname, htemplate, Step.ofExcept, pure_bind, hdeclared, Step.require, hbound]
  rfl

theorem check_of_build {session final : Session} {link : Link}
    (h : build assets scope declaration session = .ok link final) :
    ∃ name template fragment, Accepted scope declaration name template fragment link ∧
      check assets scope name template fragment link session = .ok link final := by
  obtain ⟨name, hname, hrest⟩ := Step.ofExcept_bind_eq_ok.1 h
  obtain ⟨template, htemplate, hrest⟩ := Step.ofExcept_bind_eq_ok.1 hrest
  obtain ⟨fragment, hfield, hrest⟩ := Step.require_bind_eq_ok.1 hrest
  obtain ⟨bound, hbind, hcheck⟩ := Step.ofExcept_bind_eq_ok.1 hrest
  have accepted : Accepted scope declaration name template fragment bound :=
    ⟨Declaration.requiredText_eq_ok.1 hname, Declaration.requiredText_eq_ok.1 htemplate, hfield,
      hbind⟩
  obtain ⟨rfl, _⟩ := check_eq_ok.1 hcheck
  exact ⟨name, template, fragment, accepted, hcheck⟩

/-- Building a link leaves every versioned entry of the registry as it is. -/
theorem keeps_versioned_build {session : Session} {id : String} {entry : Entry}
    (hentry : session.registry.get? id = some entry) (versioned : entry.version.isSome) :
    ((build assets scope declaration).after session).registry.get? id = some entry := by
  have grows := (Registry.readingInvariant_grows assets session.registry).keeps_link scope
    declaration session ⟨trivial, .refl _⟩
  exact grows.2.get?_of_versioned hentry versioned

/-- A link that is built has the name and the template of its declaration. The template is among the
    ids that the schema of the linked resource lists, which a single hop from the fragment of the
    field comes to; the getter is that of a list exactly if the field has items; and there is one
    parameter for each declared one, in their order. If the template of a declaration that is accepted
    up to there is not among the ids, that is the error. However the building of a link fails, it
    leaves every versioned entry of the registry as it is. -/
theorem build_checks_template (assets : Assets) (scope : Scope) (declaration : Json)
    (session : Session) :
    (∀ link final, build assets scope declaration session = .ok link final →
      ∃ name template fragment target,
        declaration.text? "Name" = some name ∧ link.name = name ∧
        declaration.text? "Template" = some template ∧ link.template = some template ∧
        fieldIn? scope.spec (fieldOf declaration) name = some fragment ∧
        Resolution.HopsTo assets session.store fragment scope.spec target ∧
        (∃ uris, target.items? "uris" = some uris ∧ .string template ∈ uris) ∧
        (link.getter = .linkCollection ↔ fragment.has "items" = true) ∧
        ∃ declared, entries? declaration "Parameters" = some declared ∧
          List.Forall₂ LinkParameter.Mirrors declared link.parameters) ∧
      (∀ name template fragment link target,
        Accepted scope declaration name template fragment link →
        Resolution.HopsTo assets session.store fragment scope.spec target →
        (∀ uris, target.items? "uris" = some uris → .string template ∉ uris) →
        ∃ final, build assets scope declaration session =
          .error (.invalidTemplate template name) final) ∧
      ∀ error final, build assets scope declaration session = .error error final →
        ∀ id entry, session.registry.get? id = some entry → entry.version.isSome →
          final.registry.get? id = some entry := by
  refine ⟨?built, ?unlisted, ?failed⟩
  case built =>
    intro link final h
    obtain ⟨name, template, fragment, accepted, hcheck⟩ := check_of_build h
    obtain ⟨-, target, hresolve, hlists⟩ := check_eq_ok.1 hcheck
    obtain ⟨_, declared, parameters, -, hdeclared, hparameters, rfl⟩ := bind_eq_ok.1 accepted.bound
    exact ⟨name, template, fragment, target, accepted.named, rfl, accepted.templated, rfl,
      accepted.declared, Resolution.resolve_once_iff.1 ⟨final, hresolve⟩, lists_iff.1 hlists,
      getterOf_eq_linkCollection_iff, declared, hdeclared,
      hparameters.imp fun _ _ => LinkParameter.mirrors_of_parse⟩
  case unlisted =>
    intro name template fragment link target accepted hops unlisted
    obtain ⟨final, hresolve⟩ := Resolution.resolve_once_iff.2 hops
    have hlists : ¬ lists target template = true := by
      rw [lists_iff]
      rintro ⟨uris, huris, hmem⟩
      exact unlisted uris huris hmem
    refine ⟨final, ?_⟩
    rw [build_of_accepted accepted, check, Step.bind_apply, hresolve]
    simp only [Step.require, pure_bind, if_neg hlists]
    rfl
  case failed =>
    intro error final h id entry hentry versioned
    rw [← Step.after_of_error h]
    exact keeps_versioned_build hentry versioned

/-- The field of a drive that links to its chassis. -/
def chassisField : Json :=
  .object [("$ref", .string "#/definitions/Chassis")]

/-- A drive with that field, and the ids of a chassis. -/
def driveScope : Scope where
  owner := "Drive"
  spec := .object [("definitions", .object [
    ("Links", .object [("properties", .object [("Chassis", chassisField)])]),
    ("Chassis", .object [("uris", .array [.string "/redfish/v1/Chassis"])])])]
  enclosing := none

/-- The declaration of a link to a chassis with a template. -/
def chassisLink (template : String) : Json :=
  .object [("Name", .string "Chassis"), ("Template", .string template)]

theorem build_of_chassisLink :
    (∃ link final, build ⟨⟨[], []⟩, {}⟩ driveScope (chassisLink "/redfish/v1/Chassis") .start =
        .ok link final ∧ link.template = some "/redfish/v1/Chassis" ∧
      ∃ target, Resolution.HopsTo ⟨⟨[], []⟩, {}⟩ .empty chassisField driveScope.spec target ∧
        lists target "/redfish/v1/Chassis" = true) ∧
      ∃ final, build ⟨⟨[], []⟩, {}⟩ driveScope (chassisLink "/redfish/v1/Drives") .start =
        .error (.invalidTemplate "/redfish/v1/Drives" "Chassis") final := by
  constructor
  · obtain ⟨link, final, h, -⟩ : ∃ link final, build ⟨⟨[], []⟩, {}⟩ driveScope
        (chassisLink "/redfish/v1/Chassis") .start = .ok link final ∧ True := by decide +kernel
    obtain ⟨built, -, -⟩ := build_checks_template ⟨⟨[], []⟩, {}⟩ driveScope
      (chassisLink "/redfish/v1/Chassis") .start
    obtain ⟨name, template, fragment, target, hname, -, htemplate, heq, hfield, hops, listed, -⟩ :=
      built link final h
    cases hname
    cases htemplate
    cases hfield
    exact ⟨link, final, h, heq, target, hops, lists_iff.2 listed⟩
  · obtain ⟨target, _, hresolve, unlisted⟩ : ∃ target final, Resolution.resolve ⟨⟨[], []⟩, {}⟩
        chassisField (some driveScope.spec) false .start = .ok (some target) final ∧
          lists target "/redfish/v1/Drives" = false := by decide +kernel
    obtain ⟨-, fails, -⟩ := build_checks_template ⟨⟨[], []⟩, {}⟩ driveScope
      (chassisLink "/redfish/v1/Drives") .start
    refine fails "Chassis" "/redfish/v1/Drives" chassisField _ target
      ⟨rfl, rfl, rfl, bind_eq_ok.2 ⟨_, [], [], rfl, rfl, .nil, rfl⟩⟩
      (Resolution.resolve_once_iff.1 ⟨_, hresolve⟩) fun uris huris hmem => ?_
    rw [lists_iff.2 ⟨uris, huris, hmem⟩] at unlisted
    cases unlisted

end Link

end ResourceModel

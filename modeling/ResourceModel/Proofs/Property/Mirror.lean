import ResourceModel.Proofs.Property.Link
import ResourceModel.Property.Build

set_option autoImplicit false

/-! # What a set of properties has of its declaration

A set that is built has one property for each entry that the declaration lists under the key of a
kind, in the order of the entries, with the name of its entry; and what is nested in an entry has the
same of that entry. The relation `MirrorsSet` says so of a declaration and a set, with a clause for
each kind of entry, and building is shown to end in it along the recursion by which it builds. -/

namespace ResourceModel

open Declaration (entries?)

/-! ## The relation -/

/-- Whether a field has the names of its declaration. -/
structure EntityField.Mirrors (declaration : Json) (field : EntityField) : Prop where
  name : declaration.text? "Name" = some field.name
  sourceField : declaration.text? "SourceField" = some field.sourceField

/-- Whether an entity has the name of its declaration, or else that of its source, and one field for
    each declared one. -/
structure EntitySource.Mirrors (declaration : Json) (entity : EntitySource) : Prop where
  source : declaration.text? "Source" = some entity.source
  name : entity.name = (declaration.text? "Name").getD entity.source
  fields : ∃ declared, entries? declaration "Fields" = some declared ∧
    List.Forall₂ EntityField.Mirrors declared entity.fields

namespace PropertySet

mutual

/-- Whether a set has the properties that a declaration lists under the keys of some kinds, and none
    of any other kind. -/
inductive MirrorsSet : List PropertyKind → Json → PropertySet → Prop where
  | listed {kinds : List PropertyKind} {declaration : Json} {properties : PropertySet}
      (declared : ∀ kind ∈ kinds, (entries? declaration kind.tag).isSome)
      (each : ∀ kind ∈ kinds, ∀ entries, entries? declaration kind.tag = some entries →
        MirrorsList kind entries (properties.ofKind kind))
      (others : ∀ kind, kind ∉ kinds → properties.ofKind kind = []) :
      MirrorsSet kinds declaration properties

/-- Whether properties of one kind are those of entries, one for each and in their order. -/
inductive MirrorsList : PropertyKind → List Json → List Property → Prop where
  | nil {kind : PropertyKind} : MirrorsList kind [] []
  | cons {kind : PropertyKind} {entry : Json} {rest : List Json} {property : Property}
      {properties : List Property} (first : MirrorsEntry kind entry property)
      (others : MirrorsList kind rest properties) :
      MirrorsList kind (entry :: rest) (property :: properties)

/-- Whether a property of a kind is that of an entry: it has the entry's name, and what is nested in
    it mirrors the entry's own lists. -/
inductive MirrorsEntry : PropertyKind → Json → Property → Prop where
  | static {entry : Json} {property : StaticProperty}
      (name : entry.text? "Name" = some property.name) :
      MirrorsEntry .static entry (.static property)
  | entity {entry : Json} {source : EntitySource} (mirrors : source.Mirrors entry) :
      MirrorsEntry .entity entry (.entity source)
  | fragments {entry : Json} {name parent : String} {properties : PropertySet}
      (named : entry.text? "Name" = some name)
      (nested : MirrorsSet PropertyKind.ofGroup entry properties) :
      MirrorsEntry .fragments entry (.fragments name parent properties)
  | collection {entry : Json} {name parent : String} {source : EntitySource}
      {properties : PropertySet} (named : entry.text? "Name" = some name)
      (mirrors : source.Mirrors entry)
      (nested : MirrorsSet PropertyKind.ofGroup entry properties) :
      MirrorsEntry .collection entry (.collection name parent source properties)
  | enums {entry : Json} {enumeration : Enumeration}
      (name : entry.text? "Name" = some enumeration.name) :
      MirrorsEntry .enums entry (.enums enumeration)
  | oem {entry : Json} {head : ExtensionHead} {properties : PropertySet}
      (name : entry.text? "Name" = some head.name)
      (nested : MirrorsSet PropertyKind.ofGroup entry properties) :
      MirrorsEntry .oem entry (.oem head properties)
  | links {entry : Json} {link : Link} (name : entry.text? "Name" = some link.name) :
      MirrorsEntry .links entry (.links link)
  | annotations {entry : Json} {item : Annotation} (read : Annotation.parse entry = .ok item) :
      MirrorsEntry .annotations entry (.annotations item)
  | relatedItems {entry : Json} {link : Link} (name : entry.text? "Name" = some link.name) :
      MirrorsEntry .relatedItems entry (.relatedItems link)

end

/-- Lists mirror each other entry by entry. -/
theorem mirrorsList_iff {kind : PropertyKind} {entries : List Json} {properties : List Property} :
    MirrorsList kind entries properties ↔
      List.Forall₂ (MirrorsEntry kind) entries properties := by
  constructor
  · intro h
    induction entries generalizing properties with
    | nil =>
      cases h
      exact .nil
    | cons entry rest ih =>
      cases h with
      | cons first others => exact .cons first (ih others)
  · intro h
    induction h with
    | nil => exact .nil
    | cons first _ ih => exact .cons first ih

theorem MirrorsEntry.kind_eq {kind : PropertyKind} {entry : Json} {property : Property}
    (h : MirrorsEntry kind entry property) : property.kind = kind := by
  cases h <;> rfl

/-- A property of a list has the kind of the list. -/
theorem MirrorsList.kind_eq {kind : PropertyKind} {entries : List Json}
    {properties : List Property} (h : MirrorsList kind entries properties) :
    ∀ property ∈ properties, property.kind = kind := by
  intro property hproperty
  induction entries generalizing properties with
  | nil =>
    cases h
    cases hproperty
  | cons entry rest ih =>
    cases h with
    | cons first others =>
      rcases List.mem_cons.1 hproperty with rfl | hproperty
      · exact first.kind_eq
      · exact ih others hproperty

/-! ## Sets by their kinds -/

theorem ofKind_append (first second : List Property) (kind : PropertyKind) :
    ofKind (first ++ second) kind = ofKind first kind ++ ofKind second kind :=
  List.filter_append first second

theorem ofKind_of_kind_eq {properties : List Property} {kind : PropertyKind}
    (h : ∀ property ∈ properties, property.kind = kind) (other : PropertyKind) :
    ofKind properties other = if other = kind then properties else [] := by
  split
  · next heq =>
    subst heq
    exact List.filter_eq_self.2 fun property hproperty => by simpa using h property hproperty
  · next hne =>
    refine List.filter_eq_nil_iff.2 fun property hproperty => ?_
    rw [h property hproperty]
    simpa using Ne.symm hne

/-- Putting the kinds in order leaves the properties of each kind as they are. -/
theorem ofKind_assemble (properties : List Property) (kind : PropertyKind) :
    ofKind (assemble properties) kind = ofKind properties kind := by
  have of_ofKind : ∀ own, ofKind (ofKind properties own) kind =
      if kind = own then ofKind properties own else [] := fun own =>
    ofKind_of_kind_eq (fun property hproperty => by simpa using (List.mem_filter.1 hproperty).2) kind
  unfold assemble ofKind at *
  rw [List.filter_flatMap]
  cases kind <;> simp [PropertyKind.ofNode, of_ofKind]

theorem MirrorsSet.assemble {kinds : List PropertyKind} {declaration : Json}
    {properties : List Property} (h : MirrorsSet kinds declaration properties) :
    MirrorsSet kinds declaration (assemble properties) := by
  cases h with
  | listed declared each others =>
    refine .listed declared (fun kind hkind entries hentries => ?_) fun kind hkind => ?_
    · rw [ofKind_assemble]
      exact each kind hkind entries hentries
    · rw [ofKind_assemble]
      exact others kind hkind

end PropertySet

/-! ## Building what is not nested -/

open Step (Answers)

/-- A text that has to be there is the one under its key. -/
theorem Declaration.answers_requiredText {σ : Type} (declaration : Json) (key subject : String) :
    Answers (fun text => declaration.text? key = some text)
      (Step.ofExcept (requiredText declaration key subject) : Step σ String) :=
  .ofExcept fun _ => requiredText_eq_ok.1

section Leaves

variable (assets : Assets) (scope : Scope) (declaration : Json)

theorem StaticProperty.answers_build :
    Answers (fun property => declaration.text? "Name" = some property.name)
      (StaticProperty.build assets scope declaration) := by
  unfold StaticProperty.build
  exact (Declaration.answers_requiredText _ _ _).bind fun _ hname => .behind fun _ =>
    .behind fun _ => .behind fun _ => .behind fun _ => .pure hname

theorem EntityField.answers_build :
    Answers (EntityField.Mirrors declaration) (EntityField.build assets scope declaration) := by
  unfold EntityField.build
  exact (Declaration.answers_requiredText _ _ _).bind fun _ hname =>
    (Declaration.answers_requiredText _ _ _).bind fun _ hsource => .behind fun _ =>
      .behind fun _ => .behind fun _ => .behind fun _ => .pure ⟨hname, hsource⟩

theorem EntityField.answers_buildAll (declarations : List Json) :
    Answers (List.Forall₂ EntityField.Mirrors declarations)
      (EntityField.buildAll assets scope declarations) := by
  induction declarations with
  | nil => exact .pure .nil
  | cons declaration rest ih =>
    exact (answers_build assets scope declaration).bind fun _ first =>
      ih.bind fun _ others => .pure (.cons first others)

theorem EntitySource.answers_build :
    Answers (EntitySource.Mirrors declaration) (EntitySource.build assets scope declaration) := by
  unfold EntitySource.build
  refine (Declaration.answers_requiredText _ _ _).bind fun source hsource => .behind fun _ => ?_
  have declared : ∀ subject, Answers (fun entries => entries? declaration "Fields" = some entries)
      (Step.ofExcept (Declaration.optionalList declaration "Fields" subject) :
        Step Session (List Json)) :=
    fun _ => .ofExcept fun _ => Declaration.optionalList_eq_ok.1
  exact (declared _).bind fun entries hentries =>
    (EntityField.answers_buildAll assets scope entries).bind fun _ fields =>
      .pure ⟨hsource, rfl, entries, hentries, fields⟩

theorem Enumeration.answers_build :
    Answers (fun enumeration => declaration.text? "Name" = some enumeration.name)
      (Enumeration.build assets scope declaration) := by
  unfold Enumeration.build
  exact (Declaration.answers_requiredText _ _ _).bind fun _ hname => .behind fun _ =>
    .behind fun _ => .behind fun _ => .behind fun _ => .behind fun _ => .behind fun _ => .pure hname

theorem Link.name_of_bind {name field classname subject : String} {template : Option String}
    {fragment declaration : Json} {link : Link}
    (h : Link.bind name field template classname fragment declaration subject = .ok link) :
    link.name = name := by
  obtain ⟨_, _, _, -, -, -, rfl⟩ := bind_eq_ok.1 h
  rfl

theorem Link.answers_build :
    Answers (fun link => declaration.text? "Name" = some link.name)
      (Link.build assets scope declaration) := by
  unfold Link.build
  refine (Declaration.answers_requiredText _ _ _).bind fun name hname => .behind fun _ =>
    .behind fun _ => ?_
  have bound : ∀ template classname fragment subject,
      Answers (fun link : Link => link.name = name) (Step.ofExcept (Link.bind name
        ((declaration.text? "Field").getD defaultField) template classname fragment declaration
        subject) : Step Session Link) :=
    fun _ _ _ _ => .ofExcept fun _ => name_of_bind
  refine (bound _ _ _ _).bind fun link hlink => .behind fun _ => .behind fun _ => ?_
  split
  · exact .pure (hlink ▸ hname)
  · exact .throw _

theorem Link.name_of_buildRelatedItem {link : Link}
    (h : Link.buildRelatedItem scope declaration = .ok link) :
    declaration.text? "Name" = some link.name := by
  obtain ⟨name, hname, hrest⟩ := Step.except_bind_eq_ok.1 h
  split at hrest
  · rw [name_of_bind hrest]
    exact Declaration.requiredText_eq_ok.1 hname
  · cases hrest

theorem ExtensionHead.answers_enter :
    Answers (fun entered => declaration.text? "Name" = some entered.1.name)
      (ExtensionHead.enter assets scope declaration) := by
  unfold ExtensionHead.enter
  exact (Declaration.answers_requiredText _ _ _).bind fun _ hname => .behind fun _ =>
    .behind fun _ => .behind fun _ => .behind fun _ => .behind fun _ => .pure hname

end Leaves

/-! ## Building sets -/

namespace PropertySet

variable {assets : Assets}

/-- The properties of a kind that come first and those of the kinds behind it. -/
theorem MirrorsSet.cons {kind : PropertyKind} {rest : List PropertyKind} {declaration : Json}
    {entries : List Json} {properties others : List Property} (fresh : kind ∉ rest)
    (declared : entries? declaration kind.tag = some entries)
    (first : MirrorsList kind entries properties) (behind : MirrorsSet rest declaration others) :
    MirrorsSet (kind :: rest) declaration (properties ++ others) := by
  cases behind with
  | listed declaredRest eachRest othersRest =>
    have own := ofKind_of_kind_eq first.kind_eq
    refine .listed (List.forall_mem_cons.2 ⟨by rw [declared]; rfl, declaredRest⟩) ?_ ?_
    · refine List.forall_mem_cons.2 ⟨fun found hfound => ?_, fun other hother found hfound => ?_⟩
      · obtain rfl := Option.some.inj (declared.symm.trans hfound)
        rw [ofKind_append, own, if_pos rfl, othersRest kind fresh, List.append_nil]
        exact first
      · have hne : other ≠ kind := fun heq => fresh (heq ▸ hother)
        rw [ofKind_append, own, if_neg hne]
        exact eachRest other hother found hfound
    · intro other hother
      obtain ⟨hne, hnot⟩ := not_or.1 (mt List.mem_cons.2 hother)
      rw [ofKind_append, own, if_neg hne, othersRest other hnot]
      rfl

mutual

theorem answers_buildKinds (scope : Scope) (declaration : Json) :
    (kinds : List PropertyKind) → kinds.Nodup →
    Answers (MirrorsSet kinds declaration) (buildKinds assets scope declaration kinds)
  | [], _ => by
    rw [buildKinds]
    exact .pure (.listed (by simp) (by simp) fun _ _ => rfl)
  | kind :: rest, distinct => by
    obtain ⟨fresh, distinct⟩ := List.nodup_cons.1 distinct
    rw [buildKinds]
    exact (answers_buildKind scope declaration kind).bind fun _ ⟨_, declared, first⟩ =>
      (answers_buildKinds scope declaration rest distinct).bind fun _ behind =>
        .pure (behind.cons fresh declared first)
termination_by kinds => 16 * sizeOf declaration + 1 + kinds.length

theorem answers_buildKind (scope : Scope) (declaration : Json) (kind : PropertyKind) :
    Answers (fun properties => ∃ entries, entries? declaration kind.tag = some entries ∧
      MirrorsList kind entries properties) (buildKind assets scope declaration kind) := by
  rw [buildKind]
  split
  · next entries h =>
    have _smaller := sizeOf_le_of_optionalList h
    intro session properties final hbuild
    exact ⟨entries, Declaration.optionalList_eq_ok.1 h,
      answers_buildEntries scope kind entries session properties final hbuild⟩
  · exact .throw _
termination_by 16 * sizeOf declaration + 1

theorem answers_buildEntries (scope : Scope) (kind : PropertyKind) : (entries : List Json) →
    Answers (MirrorsList kind entries) (buildEntries assets scope kind entries)
  | [] => by
    rw [buildEntries]
    exact .pure .nil
  | entry :: rest => by
    rw [buildEntries]
    split
    · exact (answers_buildEntry scope kind entry).bind fun _ first =>
        (answers_buildEntries scope kind rest).bind fun _ others => .pure (.cons first others)
    · exact .throw _
termination_by entries => 16 * sizeOf entries
decreasing_by
  all_goals
    have : PropertyKind.ofGroup.length = 8 := rfl
    simp only [List.cons.sizeOf_spec]
    omega

theorem answers_buildEntry (scope : Scope) (kind : PropertyKind) (entry : Json) :
    Answers (MirrorsEntry kind entry) (buildEntry assets scope kind entry) := by
  -- a group's kinds are different, whatever is nested in it
  have distinct : PropertyKind.ofGroup.Nodup := by decide
  cases kind with
  | static =>
    rw [buildEntry]
    exact (StaticProperty.answers_build assets scope entry).bind fun _ name => .pure (.static name)
  | entity =>
    rw [buildEntry]
    exact (EntitySource.answers_build assets scope entry).bind fun _ mirrors =>
      .pure (.entity mirrors)
  | fragments =>
    rw [buildEntry]
    exact (Declaration.answers_requiredText _ _ _).bind fun _ named => .behind fun inner =>
      (answers_buildKinds inner entry PropertyKind.ofGroup distinct).bind fun _ nested =>
        .pure (.fragments named nested.assemble)
  | collection =>
    rw [buildEntry]
    exact (Declaration.answers_requiredText _ _ _).bind fun _ named =>
      (EntitySource.answers_build assets scope entry).bind fun _ mirrors => .behind fun inner =>
        (answers_buildKinds inner entry PropertyKind.ofGroup distinct).bind fun _ nested =>
          .pure (.collection named mirrors nested.assemble)
  | enums =>
    rw [buildEntry]
    exact (Enumeration.answers_build assets scope entry).bind fun _ name => .pure (.enums name)
  | oem =>
    rw [buildEntry]
    exact (ExtensionHead.answers_enter assets scope entry).bind fun entered name =>
      (answers_buildKinds entered.2 entry PropertyKind.ofGroup distinct).bind fun _ nested =>
        .pure (.oem name nested.assemble)
  | links =>
    rw [buildEntry]
    exact (Link.answers_build assets scope entry).bind fun _ name => .pure (.links name)
  | annotations =>
    rw [buildEntry]
    exact Answers.bind (.ofExcept fun _ read => read) fun _ read => .pure (.annotations read)
  | relatedItems =>
    rw [buildEntry]
    exact Answers.bind (.ofExcept fun _ => Link.name_of_buildRelatedItem scope entry)
      fun _ name => .pure (.relatedItems name)
termination_by 16 * sizeOf entry + PropertyKind.ofGroup.length + 2

end

/-- The set of properties of a node has, for each kind, one property for each entry that the
    declaration lists under the key of the kind, in the order of the entries and with their names,
    and what is nested in an entry mirrors that entry in the same way. -/
theorem mirrors_of_build {scope : Scope} {declaration : Json} {session final : Session}
    {properties : PropertySet}
    (h : build assets scope PropertyKind.ofNode declaration session = .ok properties final) :
    MirrorsSet PropertyKind.ofNode declaration properties := by
  obtain ⟨built, _, hbuilt, hanswer⟩ := Step.bind_eq_ok.1 h
  obtain ⟨rfl, -⟩ := Step.pure_eq_ok.1 hanswer
  exact (answers_buildKinds scope declaration PropertyKind.ofNode (by decide) _ _ _ hbuilt).assemble

/-- A schema with a nested object. -/
def nestingScope : Scope where
  owner := "Chassis"
  spec := .object [("definitions", .object [
    ("Chassis", .object [("properties", .object [
      ("Id", .object [("type", .string "string")]),
      ("Status", .object [("properties", .object [
        ("State", .object [("type", .string "string")])])])])]),
    ("Status", .object [])])]
  enclosing := none

/-- A declaration of an entity without a name and of a nested object, in which links are declared,
    and with a key that is none of a kind. -/
def nestingDeclaration : Json :=
  .object [("Static", .null),
    ("Fragments", .array [.object [("Name", .string "Status"),
      ("Links", .array [.object [("Name", .string "State")]]),
      ("Static", .array [.object [("Name", .string "State"), ("Value", .string "Enabled")]])]]),
    ("Entity", .array [.object [("Source", .string "E"), ("Fields", .array [
      .object [("Name", .string "Id"), ("SourceField", .string "id")]])]]),
    ("Other", .array [.object []])]

/-- What a set has that consists of an entity and of a nested object with one property. -/
structure NestingParts where
  source : EntitySource
  name : String
  parent : String
  state : StaticProperty

/-- The parts of such a set. -/
def nestingParts? : PropertySet → Option NestingParts
  | [.entity source, .fragments name parent [.static state]] => some ⟨source, name, parent, state⟩
  | _ => none

theorem eq_of_nestingParts? {properties : PropertySet} {parts : NestingParts}
    (h : parts ∈ nestingParts? properties) : properties =
      [.entity parts.source, .fragments parts.name parts.parent [.static parts.state]] := by
  unfold nestingParts? at h
  split at h
  · cases h
    rfl
  · cases h

/-- The set has the entity, under the name of its source, and the nested object with its one
    property; there is nothing of the links and of the other key. -/
theorem mirrors_of_build_nesting :
    ∃ (source : EntitySource) (name parent : String) (state : StaticProperty) (final : Session),
      build ⟨⟨[], []⟩, {}⟩ nestingScope PropertyKind.ofNode nestingDeclaration .start =
        .ok [.entity source, .fragments name parent [.static state]] final ∧
      MirrorsSet PropertyKind.ofNode nestingDeclaration
        [.entity source, .fragments name parent [.static state]] ∧
      source.name = "E" ∧ source.fields.map EntityField.name = ["Id"] ∧ name = "Status" ∧
      state.name = "State" := by
  obtain ⟨properties, final, hbuild, parts, hparts, hnames⟩ : ∃ properties final,
      build ⟨⟨[], []⟩, {}⟩ nestingScope PropertyKind.ofNode nestingDeclaration .start =
        .ok properties final ∧ ∃ parts ∈ nestingParts? properties, parts.source.name = "E" ∧
          parts.source.fields.map EntityField.name = ["Id"] ∧ parts.name = "Status" ∧
          parts.state.name = "State" := by decide +kernel
  obtain rfl := eq_of_nestingParts? hparts
  exact ⟨parts.source, parts.name, parts.parent, parts.state, final, hbuild,
    mirrors_of_build hbuild, hnames⟩

end PropertySet

end ResourceModel

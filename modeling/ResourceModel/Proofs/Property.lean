import ResourceModel.Node.Model
import ResourceModel.Proofs.Registry.Invariant

set_option autoImplicit false

/-! # What building properties keeps

Properties are built by reading documents and by following references, which is all that changes the
state. So an invariant of the registry is carried through the building of a node's properties, from
the fields through the nested objects, collections and extensions to the model of the node. -/

namespace ResourceModel

open Step (Keeps)

namespace ReadingInvariant

variable {assets : Assets} {ofStore : Store → Prop} {ofRegistry : Registry → Prop}

section Parts

variable (invariant : ReadingInvariant assets ofStore ofRegistry)
include invariant

/-! ## Fields -/

theorem keeps_description (binding : FieldBinding) (context : Json) :
    Keeps (Session.Holds ofStore ofRegistry) (binding.description assets context) := by
  unfold FieldBinding.description
  split
  · exact .pure _
  · exact (invariant.keeps_resolveFragment _ _ _).bind fun _ => .pure _

theorem keeps_staticProperty (scope : Scope) (declaration : Json) :
    Keeps (Session.Holds ofStore ofRegistry) (StaticProperty.build assets scope declaration) := by
  unfold StaticProperty.build
  exact (Keeps.ofExcept _).bind fun _ => (Keeps.require _ _).bind fun _ =>
    (Keeps.ofExcept _).bind fun binding => (invariant.keeps_typeOf _ _).bind fun _ =>
      (invariant.keeps_description binding _).bind fun _ => .pure _

theorem keeps_elementGetter (scope : Scope) (fragment : Json) :
    Keeps (Session.Holds ofStore ofRegistry)
      (EntityField.elementGetter assets scope fragment) := by
  have rest : ∀ context, Keeps (Session.Holds ofStore ofRegistry) (do
      let list ← Resolution.resolve assets fragment (some context) true
      let element := EntityField.elementOf (list.getD fragment) fragment
      let type ← Resolution.typeOf assets element (some context)
      return Getter.ofType type (Fragment.typeName? element)) := fun _ =>
    (invariant.keeps_resolveFragment _ _ _).bind fun _ =>
      (invariant.keeps_typeOf _ _).bind fun _ => .pure _
  unfold EntityField.elementGetter
  split
  · exact (Keeps.pure _).bind rest
  · exact (Session.keeps_reading (invariant.keeps_documentOf _ _ _)).bind rest

theorem keeps_getterOf (scope : Scope) (name : String) (type : SemanticType) (fragment : Json) :
    Keeps (Session.Holds ofStore ofRegistry)
      (EntityField.getterOf assets scope name type fragment) := by
  unfold EntityField.getterOf
  split
  · exact .pure _
  · exact (invariant.keeps_elementGetter _ _).bind fun _ => .pure _
  · exact .pure _

theorem keeps_entityField (scope : Scope) (declaration : Json) :
    Keeps (Session.Holds ofStore ofRegistry) (EntityField.build assets scope declaration) := by
  unfold EntityField.build
  exact (Keeps.ofExcept _).bind fun _ => (Keeps.ofExcept _).bind fun _ =>
    (Keeps.ofExcept _).bind fun binding => (invariant.keeps_typeOf _ _).bind fun _ =>
      (invariant.keeps_getterOf _ _ _ _).bind fun _ =>
        (invariant.keeps_description binding _).bind fun _ => .pure _

theorem keeps_entityFields (scope : Scope) (declarations : List Json) :
    Keeps (Session.Holds ofStore ofRegistry) (EntityField.buildAll assets scope declarations) := by
  induction declarations with
  | nil => exact .pure _
  | cons declaration rest ih =>
    exact (invariant.keeps_entityField scope declaration).bind fun _ => ih.bind fun _ => .pure _

theorem keeps_entitySource (scope : Scope) (declaration : Json) :
    Keeps (Session.Holds ofStore ofRegistry) (EntitySource.build assets scope declaration) := by
  unfold EntitySource.build
  exact (Keeps.ofExcept _).bind fun _ => (Keeps.ofExcept _).bind fun _ =>
    (Keeps.ofExcept _).bind fun _ => (invariant.keeps_entityFields scope _).bind fun _ => .pure _

theorem keeps_enumeration (scope : Scope) (declaration : Json) :
    Keeps (Session.Holds ofStore ofRegistry) (Enumeration.build assets scope declaration) := by
  unfold Enumeration.build
  exact (Keeps.ofExcept _).bind fun _ => (Keeps.ofExcept _).bind fun _ =>
    (Keeps.require _ _).bind fun _ => (Keeps.ofExcept _).bind fun _ =>
      (invariant.keeps_resolveFragment _ _ _).bind fun _ => (Keeps.require _ _).bind fun _ =>
        (Keeps.require _ _).bind fun _ => .pure _

theorem keeps_link (scope : Scope) (declaration : Json) :
    Keeps (Session.Holds ofStore ofRegistry) (Link.build assets scope declaration) := by
  unfold Link.build
  refine (Keeps.ofExcept _).bind fun name => (Keeps.ofExcept _).bind fun template =>
    (Keeps.require _ _).bind fun _ => (Keeps.ofExcept _).bind fun link =>
      (invariant.keeps_resolveFragment _ _ _).bind fun _ => (Keeps.require _ _).bind fun _ => ?_
  split
  · exact .pure _
  · exact .throw _

/-! ## Nested objects and extensions -/

theorem keeps_fragmentOf (scope : Scope) (name : String) :
    Keeps (Session.Holds ofStore ofRegistry) (scope.fragmentOf assets name) := by
  unfold Scope.fragmentOf
  exact (Keeps.ofExcept _).bind fun _ => (Keeps.require _ _).bind fun _ =>
    (invariant.keeps_resolveFragment _ _ _).bind fun _ => .require _ _

theorem keeps_scopeDocument (scope : Scope) (name : String) :
    Keeps (Session.Holds ofStore ofRegistry) (scope.documentOf assets name) := by
  unfold Scope.documentOf
  split
  · exact .pure _
  · exact (Keeps.ofExcept _).bind fun _ => (Keeps.ofExcept _).bind fun _ =>
      Session.keeps_reading (invariant.keeps_documentOf _ _ _)

theorem keeps_enterScope (scope : Scope) (name : String) :
    Keeps (Session.Holds ofStore ofRegistry) (scope.enter assets name) := by
  unfold Scope.enter
  exact (invariant.keeps_fragmentOf scope name).bind fun _ =>
    (invariant.keeps_scopeDocument scope name).bind fun _ => .pure _

theorem keeps_enterExtension (scope : Scope) (declaration : Json) :
    Keeps (Session.Holds ofStore ofRegistry)
      (ExtensionHead.enter assets scope declaration) := by
  unfold ExtensionHead.enter
  exact (Keeps.ofExcept _).bind fun _ => (Keeps.require _ _).bind fun _ =>
    (Session.keeps_reading (invariant.keeps_requireExtension _ _)).bind fun _ =>
      (Keeps.ofExcept _).bind fun _ => (invariant.keeps_resolveFragment _ _ _).bind fun _ =>
        (Keeps.require _ _).bind fun _ => .pure _

end Parts

/-! ## Sets of properties -/

mutual

theorem keeps_buildKinds (invariant : ReadingInvariant assets ofStore ofRegistry) (scope : Scope)
    (declaration : Json) : (kinds : List PropertyKind) →
    Keeps (Session.Holds ofStore ofRegistry)
      (PropertySet.buildKinds assets scope declaration kinds)
  | [] => by
    rw [PropertySet.buildKinds]
    exact .pure _
  | kind :: rest => by
    rw [PropertySet.buildKinds]
    exact (invariant.keeps_buildKind scope declaration kind).bind fun _ =>
      (invariant.keeps_buildKinds scope declaration rest).bind fun _ => .pure _
termination_by kinds => 16 * sizeOf declaration + 1 + kinds.length

theorem keeps_buildKind (invariant : ReadingInvariant assets ofStore ofRegistry) (scope : Scope)
    (declaration : Json) (kind : PropertyKind) :
    Keeps (Session.Holds ofStore ofRegistry)
      (PropertySet.buildKind assets scope declaration kind) := by
  rw [PropertySet.buildKind]
  split
  · next entries h => exact invariant.keeps_buildEntries scope kind entries
  · exact .throw _
termination_by 16 * sizeOf declaration + 1
decreasing_by
  rename_i h
  have := PropertySet.sizeOf_le_of_optionalList h
  omega

theorem keeps_buildEntries (invariant : ReadingInvariant assets ofStore ofRegistry) (scope : Scope)
    (kind : PropertyKind) : (entries : List Json) →
    Keeps (Session.Holds ofStore ofRegistry)
      (PropertySet.buildEntries assets scope kind entries)
  | [] => by
    rw [PropertySet.buildEntries]
    exact .pure _
  | entry :: rest => by
    rw [PropertySet.buildEntries]
    split
    · exact (invariant.keeps_buildEntry scope kind entry).bind fun _ =>
        (invariant.keeps_buildEntries scope kind rest).bind fun _ => .pure _
    · exact .throw _
termination_by entries => 16 * sizeOf entries
decreasing_by
  all_goals
    have : PropertyKind.ofGroup.length = 8 := rfl
    simp only [List.cons.sizeOf_spec]
    omega

theorem keeps_buildEntry (invariant : ReadingInvariant assets ofStore ofRegistry) (scope : Scope)
    (kind : PropertyKind) (entry : Json) :
    Keeps (Session.Holds ofStore ofRegistry)
      (PropertySet.buildEntry assets scope kind entry) := by
  cases kind with
  | static =>
    rw [PropertySet.buildEntry]
    exact (invariant.keeps_staticProperty scope entry).bind fun _ => .pure _
  | entity =>
    rw [PropertySet.buildEntry]
    exact (invariant.keeps_entitySource scope entry).bind fun _ => .pure _
  | fragments =>
    rw [PropertySet.buildEntry]
    exact (Keeps.ofExcept _).bind fun name =>
      (invariant.keeps_enterScope scope name).bind fun inner =>
        (invariant.keeps_buildKinds inner entry PropertyKind.ofGroup).bind fun _ => .pure _
  | collection =>
    rw [PropertySet.buildEntry]
    exact (Keeps.ofExcept _).bind fun name =>
      (invariant.keeps_entitySource scope entry).bind fun _ =>
        (invariant.keeps_enterScope scope name).bind fun inner =>
          (invariant.keeps_buildKinds inner entry PropertyKind.ofGroup).bind fun _ => .pure _
  | enums =>
    rw [PropertySet.buildEntry]
    exact (invariant.keeps_enumeration scope entry).bind fun _ => .pure _
  | oem =>
    rw [PropertySet.buildEntry]
    exact (invariant.keeps_enterExtension scope entry).bind fun entered =>
      (invariant.keeps_buildKinds entered.2 entry PropertyKind.ofGroup).bind fun _ => .pure _
  | links =>
    rw [PropertySet.buildEntry]
    exact (invariant.keeps_link scope entry).bind fun _ => .pure _
  | annotations =>
    rw [PropertySet.buildEntry]
    exact (Keeps.ofExcept _).bind fun _ => .pure _
  | relatedItems =>
    rw [PropertySet.buildEntry]
    exact (Keeps.ofExcept _).bind fun _ => .pure _
termination_by 16 * sizeOf entry + PropertyKind.ofGroup.length + 2

end

/-! ## Models -/

theorem keeps_buildProperties (invariant : ReadingInvariant assets ofStore ofRegistry) (node : Node) :
    Keeps (Session.Holds ofStore ofRegistry) (node.buildProperties assets) := by
  unfold Node.buildProperties
  split
  · exact .pure _
  · split
    · exact (invariant.keeps_buildKinds _ _ _).bind fun _ => .pure _
    · exact .throw _

/-- An invariant of the registry is kept where the model of a node is built. -/
theorem keeps_buildModel (invariant : ReadingInvariant assets ofStore ofRegistry) (graph : Graph)
    (year : Nat) (node : Node) :
    Keeps (Session.Holds ofStore ofRegistry) (NodeModel.build assets graph year node) := by
  unfold NodeModel.build
  exact (invariant.keeps_buildProperties node).bind fun _ => (Keeps.ofExcept _).bind fun _ =>
    (Keeps.ofExcept _).bind fun _ => (Keeps.ofExcept _).bind fun _ =>
      (Keeps.ofExcept _).bind fun _ => (Keeps.ofExcept _).bind fun _ => .pure _

end ReadingInvariant

end ResourceModel

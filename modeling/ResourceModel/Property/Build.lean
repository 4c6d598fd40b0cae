import ResourceModel.Property.Basic

set_option autoImplicit false

/-! # Building properties

A declaration lists properties under the keys of their kinds. Those of nested objects, collections
and extensions are built in turn, each against the fragment that its name stands for. -/

namespace ResourceModel

/-! ## Entering nested objects -/

namespace Scope

/-- The object that an owner's nested objects are declared in: its definition, or the document if
    that has no definitions. -/
def definitionOf (scope : Scope) (name : String) : Except Error Json :=
  match scope.spec.get? "definitions" with
  | none => .ok scope.spec
  | some definitions =>
    match definitions.get? scope.owner with
    | some definition => .ok definition
    | none => .error (.unresolved name)

/-- The object whose properties hold nested objects, and whether it is an alternative of a union:
    the last one of the definition if that is a union. -/
def holderOf (scope : Scope) (name : String) : Except Error (Json × Bool) := do
  let definition ← scope.definitionOf name
  match definition.items? "anyOf" with
  | none => .ok (definition, false)
  | some alternatives =>
    match alternatives.getLast? with
    | some alternative => .ok (alternative, true)
    | none => .error (.unresolved name)

/-- The fragment of a nested object, seen from the context. -/
def fragmentOf (assets : Assets) (scope : Scope) (name : String) : Step Session Json := do
  let (holder, _) ← Step.ofExcept (scope.holderOf name)
  let fragment ← Step.require ((holder.get? "properties").bind (·.get? name)) (.unresolved name)
  let found ← Resolution.resolve assets fragment (some scope.context) true
  Step.require found (.unresolved name)

/-- The fragment that a nested object's document is found by: that of its name, or the object it is
    declared in if that holds no properties. -/
def anchorOf (holder : Json) (name : String) : Except Error Json :=
  match holder.get? "properties" with
  | none => .ok holder
  | some properties =>
    match properties.get? name with
    | some fragment => .ok fragment
    | none => .error (.unresolved name)

/-- Whether a document defines a name. -/
def defines (document : Json) (name : String) : Bool :=
  ((document.get? "definitions").bind (·.get? name)).isSome

/-- The document that the definitions of a nested object lie in: the context if it defines the
    name. A nested object of an alternative does not fall back on the context. -/
def documentOf (assets : Assets) (scope : Scope) (name : String) : Step Session Json := do
  if defines scope.context name then return scope.context
  else
    let (holder, isAlternative) ← Step.ofExcept (scope.holderOf name)
    let anchor ← Step.ofExcept (anchorOf holder name)
    Session.reading
      (Resolution.documentOf assets anchor (some scope.context) (!isAlternative))

/-- The scope of the properties of a nested object. -/
def enter (assets : Assets) (scope : Scope) (name : String) : Step Session Scope := do
  let spec ← scope.fragmentOf assets name
  let document ← scope.documentOf assets name
  return ⟨name, spec, some document⟩

end Scope

/-! ## Entering extensions -/

namespace ExtensionHead

/-- The fragment by which an extension's document adds to an owner. -/
def fragmentOf (document : Json) (owner name : String) : Except Error Json :=
  match (document.get? "definitions").bind (·.get? owner) with
  | some fragment => .ok fragment
  | none => .error (.unresolved name)

/-- Reads a declared extension: what it adds to the owner, and the scope of its properties. -/
def enter (assets : Assets) (scope : Scope) (declaration : Json) :
    Step Session (ExtensionHead × Scope) := do
  let name ← Step.ofExcept
    (Declaration.requiredText declaration "Name" ("Oem of " ++ scope.owner))
  let version ← Step.require ((declaration.get? "Version").bind Declaration.scalarText?)
    (.malformed ("Oem '" ++ name ++ "'") (.missingKey "Version"))
  let tag := Version.normalizeTag version
  let document ← Session.reading (Store.requireExtension assets name tag)
  let fragment ← Step.ofExcept (fragmentOf document scope.owner name)
  let found ← Resolution.resolve assets fragment (some document) true
  let spec ← Step.require found (.unresolved name)
  return (⟨name, tag, scope.owner, document.text? "owningEntity"⟩,
    ⟨scope.owner, spec, some document⟩)

end ExtensionHead

/-! ## Building -/

namespace PropertySet

/-- What is being declared, for errors. -/
def subjectOf (kind : PropertyKind) (scope : Scope) : String :=
  kind.tag ++ " of " ++ scope.owner

/-- Whether an entry of a list of properties is a mapping. -/
def isMapping (entry : Json) : Bool :=
  entry.object?.isSome

/-- The entries of a declared list are no larger than the declaration. -/
theorem sizeOf_le_of_optionalList {declaration : Json} {key subject : String} {entries : List Json}
    (h : Declaration.optionalList declaration key subject = .ok entries) :
    sizeOf entries ≤ sizeOf declaration := by
  rcases Declaration.sizeOf_optionalList_lt h with hlt | rfl
  · exact Nat.le_of_lt hlt
  · cases declaration <;> simp

mutual

/-- Builds the properties of some kinds that a declaration lists, kind by kind. -/
def buildKinds (assets : Assets) (scope : Scope) (declaration : Json) :
    List PropertyKind → Step Session (List Property)
  | [] => return []
  | kind :: rest => do
    let properties ← buildKind assets scope declaration kind
    return properties ++ (← buildKinds assets scope declaration rest)
termination_by kinds => 16 * sizeOf declaration + 1 + kinds.length

/-- Builds the properties of one kind that a declaration lists. -/
def buildKind (assets : Assets) (scope : Scope) (declaration : Json) (kind : PropertyKind) :
    Step Session (List Property) :=
  match _h : Declaration.optionalList declaration kind.tag (subjectOf kind scope) with
  | .ok entries => buildEntries assets scope kind entries
  | .error error => throw error
termination_by 16 * sizeOf declaration + 1
decreasing_by
  have := sizeOf_le_of_optionalList _h
  omega

/-- Builds the properties of a list of entries, one after the other. -/
def buildEntries (assets : Assets) (scope : Scope) (kind : PropertyKind) :
    List Json → Step Session (List Property)
  | [] => return []
  | entry :: rest =>
    if isMapping entry then do
      let property ← buildEntry assets scope kind entry
      return property :: (← buildEntries assets scope kind rest)
    else throw (.malformed (subjectOf kind scope) .entryNotMapping)
termination_by entries => 16 * sizeOf entries
decreasing_by
  all_goals
    have : PropertyKind.ofGroup.length = 8 := rfl
    simp only [List.cons.sizeOf_spec]
    omega

/-- Builds the property of an entry. -/
def buildEntry (assets : Assets) (scope : Scope) (kind : PropertyKind) (entry : Json) :
    Step Session Property :=
  match kind with
  | .static => return .static (← StaticProperty.build assets scope entry)
  | .entity => return .entity (← EntitySource.build assets scope entry)
  | .fragments => do
    let name ← Step.ofExcept
      (Declaration.requiredText entry "Name" ("Fragments of " ++ scope.owner))
    let inner ← scope.enter assets name
    let properties ← buildKinds assets inner entry PropertyKind.ofGroup
    return .fragments name scope.owner (assemble properties)
  | .collection => do
    let name ← Step.ofExcept
      (Declaration.requiredText entry "Name" ("Collection of " ++ scope.owner))
    let source ← EntitySource.build assets scope entry
    let inner ← scope.enter assets name
    let properties ← buildKinds assets inner entry PropertyKind.ofGroup
    return .collection name scope.owner source (assemble properties)
  | .enums => return .enums (← Enumeration.build assets scope entry)
  | .oem => do
    let (head, inner) ← ExtensionHead.enter assets scope entry
    let properties ← buildKinds assets inner entry PropertyKind.ofGroup
    return .oem head (assemble properties)
  | .links => return .links (← Link.build assets scope entry)
  | .annotations => return .annotations (← Step.ofExcept <| Annotation.parse entry)
  | .relatedItems => return .relatedItems (← Step.ofExcept (Link.buildRelatedItem scope entry))
termination_by 16 * sizeOf entry + PropertyKind.ofGroup.length + 2

end

/-- Builds the set of properties of some kinds that a declaration lists. -/
def build (assets : Assets) (scope : Scope) (kinds : List PropertyKind) (declaration : Json) :
    Step Session PropertySet := do
  return assemble (← buildKinds assets scope declaration kinds)

end PropertySet

end ResourceModel

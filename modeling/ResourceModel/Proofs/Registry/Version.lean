import ResourceModel.Proofs.Registry.Growth

set_option autoImplicit false

/-! # The version that an id is held in

The first mention with a version decides in which version a schema is held: later ones find a
versioned entry. Mentions without a version decide nothing. -/

namespace ResourceModel.Registry

/-- The version of the entry of an id, if it has an entry with a version. -/
def version? (registry : Registry) (id : String) : Option Version :=
  (registry.get? id).bind Entry.version

/-- The version of the first mention of an id that has one. -/
def firstVersion? (assets : Assets) (id : String) (mentions : List Mention) : Option Version :=
  mentions.findSome? fun mentioned =>
    if mentioned.id = id then (entryOf assets mentioned).version else none

theorem version?_of_entries {registry other : Registry} (h : registry.entries = other.entries)
    (id : String) : registry.version? id = other.version? id := by
  rw [version?, version?, get?_of_entries h]

theorem version?_of_absent {registry : Registry} {id : String} (h : registry.get? id = none) :
    registry.version? id = none := by
  rw [version?, h, Option.bind_none]

/-- An entry gives its version to an id that is held without one. -/
theorem version?_register (registry : Registry) (entry : Entry) (id : String) :
    (registry.register entry).version? id =
      (registry.version? id).or (if entry.id = id then entry.version else none) := by
  unfold version?
  rw [get?_register]
  by_cases hid : entry.id = id
  · subst hid
    unfold accepts
    cases registry.get? entry.id with
    | none => simp
    | some existing =>
      cases hold : existing.version with
      | some version => simp [hold]
      | none => cases hnew : entry.version <;> simp [hold, hnew]
  · rw [if_neg fun h => hid h.1.symm, if_neg hid, Option.or_none]

theorem version?_registerMention (assets : Assets) (registry : Registry) (mentioned : Mention)
    (id : String) :
    (registry.registerMention assets mentioned).version? id =
      (registry.version? id).or
        (if mentioned.id = id then (entryOf assets mentioned).version else none) := by
  unfold registerMention
  split
  · next hversioned =>
    obtain ⟨entry, hentry, hversion⟩ := isVersioned_iff.1 hversioned
    split
    · next hid =>
      -- the version is there already, so nothing is taken from the mention
      obtain ⟨version, hversion⟩ := Option.isSome_iff_exists.1 hversion
      rw [← hid, version?, hentry, Option.bind_some, hversion, Option.some_or]
    · rw [Option.or_none]
  · rw [version?_register, entryOf_id]

theorem firstVersion?_append (assets : Assets) (id : String) (mentions further : List Mention) :
    firstVersion? assets id (mentions ++ further) =
      (firstVersion? assets id mentions).or (firstVersion? assets id further) :=
  List.findSome?_append

/-- An id is held in the version that it had, or else in that of its first mention with one. -/
theorem version?_registerMentions (assets : Assets) (mentions : List Mention)
    (registry : Registry) (id : String) :
    (registry.registerMentions assets mentions).version? id =
      (registry.version? id).or (firstVersion? assets id mentions) := by
  induction mentions generalizing registry with
  | nil => simp [registerMentions, firstVersion?]
  | cons mentioned rest ih =>
    rw [registerMentions, List.foldl_cons]
    refine (ih (registry.registerMention assets mentioned)).trans ?_
    rw [version?_registerMention, Option.or_assoc, firstVersion?, firstVersion?, List.findSome?_cons]
    congr 1
    cases (if mentioned.id = id then (entryOf assets mentioned).version else none) <;> rfl

/-- A mention whose tag is a version has one. -/
theorem version_entryOf_isSome (assets : Assets) {mentioned : Mention} {version : Version}
    (h : mentioned.tag.bind Version.parse? = some version) :
    (entryOf assets mentioned).version.isSome := by
  have wanted : wantedVersion? assets mentioned = some version := by
    rw [wantedVersion?, h, Option.some_or]
  unfold entryOf
  simp only
  split
  · rw [wanted]
    rfl
  · split
    · rfl
    · rw [wanted]
      rfl

theorem firstVersion?_isSome (assets : Assets) {mentioned : Mention} {version : Version}
    (htag : mentioned.tag.bind Version.parse? = some version) {mentions : List Mention}
    (hmem : mentioned ∈ mentions) : (firstVersion? assets mentioned.id mentions).isSome := by
  unfold firstVersion?
  rw [List.findSome?_isSome_iff]
  refine ⟨mentioned, hmem, ?_⟩
  rw [if_pos rfl]
  exact version_entryOf_isSome assets htag

end ResourceModel.Registry

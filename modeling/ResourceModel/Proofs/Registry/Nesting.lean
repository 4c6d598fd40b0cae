import Mathlib.Order.Bounds.Defs
import ResourceModel.Proofs.Registry.Extraction
import ResourceModel.Proofs.Registry.Idempotence

set_option autoImplicit false

/-! # How deep a map of properties is scanned

The level of a map of properties is the greatest number of steps into maps nested in it. Registering
what the map mentions fails exactly if the level reaches the bound, and then with this bound. Where it
does not fail, no greater bound changes what is done: the ids that the scan reaches get an entry, and
the owner gets the edges to them that it lacked. -/

namespace ResourceModel

namespace Scan

/-! ## Nested maps -/

/-- The maps nested directly in a map of properties: what stands under `properties` in what is scanned
    of a property, be it a map or not. -/
def nestedMaps (properties : Json) : List Json :=
  ((properties.object?).getD []).filterMap fun row => (element row.2).get? "properties"

/-- Whether so many steps lead from a map of properties into maps nested in it. -/
inductive Nests : Json → Nat → Prop where
  | here (properties : Json) : Nests properties 0
  | inner {properties inner : Json} {steps : Nat} (hinner : inner ∈ nestedMaps properties)
      (h : Nests inner steps) : Nests properties (steps + 1)

theorem mem_nestedMaps {properties inner : Json} :
    inner ∈ nestedMaps properties ↔
      ∃ rows, properties.object? = some rows ∧
        ∃ row ∈ rows, (element row.2).get? "properties" = some inner := by
  unfold nestedMaps
  cases properties.object? with
  | none => simp
  | some rows => simp [List.mem_filterMap]

theorem sizeOf_element_le (property : Json) : sizeOf (element property) ≤ sizeOf property := by
  unfold element
  cases h : property.get? "items" with
  | none => simp
  | some items => simpa using Nat.le_of_lt (Json.sizeOf_get?_lt h)

theorem sizeOf_lt_of_mem_nestedMaps {properties inner : Json} (h : inner ∈ nestedMaps properties) :
    sizeOf inner < sizeOf properties := by
  obtain ⟨rows, hrows, row, hrow, hinner⟩ := mem_nestedMaps.1 h
  cases properties with
  | object found =>
    obtain rfl := Option.some.inj hrows
    obtain ⟨key, property⟩ := row
    have hlt : sizeOf inner < sizeOf (element property) := Json.sizeOf_get?_lt hinner
    have hle := sizeOf_element_le property
    have hmem := List.sizeOf_lt_of_mem hrow
    simp only [Prod.mk.sizeOf_spec, Json.object.sizeOf_spec] at hmem ⊢
    omega
  | _ => cases hrows

/-- The level of a map of properties: no step where no map is nested in it, else one step more than
    the greatest level of a map nested directly in it. -/
def level (properties : Json) : Nat :=
  ((nestedMaps properties).attach.map fun inner => level inner.1 + 1).foldr max 0
termination_by sizeOf properties
decreasing_by exact sizeOf_lt_of_mem_nestedMaps inner.2

theorem succ_le_foldr_max_iff {counts : List Nat} {n : Nat} :
    n + 1 ≤ counts.foldr max 0 ↔ ∃ count ∈ counts, n + 1 ≤ count := by
  induction counts with
  | nil => simp
  | cons count rest ih =>
    simp only [List.foldr_cons, List.mem_cons, exists_eq_or_imp, ← ih]
    omega

theorem succ_le_level_iff {properties : Json} {steps : Nat} :
    steps + 1 ≤ level properties ↔ ∃ inner ∈ nestedMaps properties, steps ≤ level inner := by
  rw [level, succ_le_foldr_max_iff]
  simp

theorem nests_iff_le_level {properties : Json} {steps : Nat} :
    Nests properties steps ↔ steps ≤ level properties := by
  induction steps generalizing properties with
  | zero => exact ⟨fun _ => Nat.zero_le _, fun _ => .here properties⟩
  | succ steps ih =>
    rw [succ_le_level_iff]
    constructor
    · rintro (_ | ⟨hinner, h⟩)
      exact ⟨_, hinner, ih.1 h⟩
    · rintro ⟨inner, hinner, h⟩
      exact .inner hinner (ih.2 h)

/-- The level is the greatest number of steps into nested maps. -/
theorem isGreatest_level (properties : Json) :
    IsGreatest {steps | Nests properties steps} (level properties) :=
  ⟨nests_iff_le_level.2 (Nat.le_refl _), fun _ h => nests_iff_le_level.1 h⟩

/-! ## Scans within a bound -/

theorem complete_ofRow_iff {levels : Nat} {row : String × Json} :
    (ofRow levels row).complete ↔
      ∀ inner, (element row.2).get? "properties" = some inner →
        (ofProperties levels inner).complete := by
  rw [ofRow, complete_followedBy, Bool.true_and]
  split
  · next inner hinner => simp [hinner]
  · next hinner => simp [hinner]

/-- A scan comes to its end exactly if no map is nested as deep as it may go. -/
theorem complete_ofProperties_iff {levels : Nat} {properties : Json} :
    (ofProperties levels properties).complete ↔ level properties < levels := by
  rw [← Nat.not_le, ← nests_iff_le_level]
  induction levels generalizing properties with
  | zero => simp [ofProperties, Nests.here]
  | succ levels ih =>
    rw [ofProperties_succ, complete_all]
    constructor
    · rintro hall (_ | ⟨hinner, h⟩)
      obtain ⟨rows, hrows, row, hrow, hproperties⟩ := mem_nestedMaps.1 hinner
      have hrow' : row ∈ (properties.object?).getD [] := by rwa [hrows, Option.getD_some]
      exact ih.1 (complete_ofRow_iff.1 (hall _ (List.mem_map_of_mem hrow')) _ hproperties) h
    · intro hnone scan hscan
      obtain ⟨row, hrow, rfl⟩ := List.mem_map.1 hscan
      refine complete_ofRow_iff.2 fun inner hproperties => ih.2 fun h => hnone (.inner ?_ h)
      exact List.mem_filterMap.2 ⟨row, hrow, hproperties⟩

/-- A scan that comes to its end finds the same when it may go deeper. -/
theorem ofProperties_of_complete {levels deeper : Nat} {properties : Json}
    (complete : (ofProperties levels properties).complete) (hle : levels ≤ deeper) :
    ofProperties deeper properties = ofProperties levels properties := by
  induction levels generalizing deeper properties with
  | zero => simp [ofProperties] at complete
  | succ levels ih =>
    obtain ⟨deeper, rfl⟩ := Nat.exists_eq_add_of_lt hle
    rw [ofProperties_succ, complete_all] at complete
    rw [ofProperties_succ, ofProperties_succ]
    congr 1
    refine List.map_congr_left fun row hrow => ?_
    have hcomplete := complete_ofRow_iff.1 (complete _ (List.mem_map_of_mem hrow))
    unfold ofRow
    congr 1
    split
    · next inner hinner => exact ih (hcomplete inner hinner) (by omega)
    · rfl

end Scan

/-- The same files and the same configuration apart from the levels of properties that are scanned. -/
def Assets.withNestingDepth (assets : Assets) (depth : Nat) : Assets :=
  { assets with
    config := { assets.config with
      limits := { assets.config.limits with nestingDepth := depth } } }

namespace Registry

variable {assets : Assets} {owner : Option String} {registry : Registry}

/-! ## The edges of an owner -/

/-- The edge that a reference asks for: from its owner, if there is one, to the schema that it
    mentions, if this is another one. -/
def edgeOf? (owner : Option String) (uri : String) : Option (String × String) :=
  match owner, Mention.ofUri? uri with
  | some source, some mentioned =>
    if source = mentioned.id then none else some (source, mentioned.id)
  | _, _ => none

/-- Edges with a further one behind them, unless it is among them. -/
def withEdge (edges : List (String × String)) (edge : String × String) : List (String × String) :=
  if edges.contains edge then edges else edges ++ [edge]

theorem edges_addEdge (registry : Registry) (source target : String) :
    (registry.addEdge source target).edges = withEdge registry.edges (source, target) := by
  unfold addEdge withEdge
  simp only [edges_mention, List.contains_iff_mem]
  split
  · rw [edges_mention, edges_mention]
  · rfl

theorem edges_registerMention (assets : Assets) (registry : Registry) (mentioned : Mention) :
    (registry.registerMention assets mentioned).edges = registry.edges := by
  unfold registerMention
  split
  · rfl
  · exact edges_register registry _

theorem edges_addDependency (assets : Assets) (owner : Option String) (registry : Registry)
    (uri : String) :
    (registry.addDependency assets owner uri).edges =
      (edgeOf? owner uri).toList.foldl withEdge registry.edges := by
  unfold addDependency edgeOf?
  cases Mention.ofUri? uri with
  | none => cases owner <;> rfl
  | some mentioned =>
    cases owner with
    | none => simp [edges_registerMention]
    | some source =>
      by_cases hself : source = mentioned.id
      · simp [hself, edges_registerMention]
      · simp [hself, edges_addEdge, edges_registerMention]

theorem edges_addDependencies (assets : Assets) (owner : Option String) (uris : List String)
    (registry : Registry) :
    (registry.addDependencies assets owner uris).edges =
      (uris.filterMap (edgeOf? owner)).foldl withEdge registry.edges := by
  induction uris generalizing registry with
  | nil => rfl
  | cons uri rest ih =>
    rw [addDependencies, List.foldl_cons]
    refine (ih (registry.addDependency assets owner uri)).trans ?_
    rw [edges_addDependency]
    cases h : edgeOf? owner uri with
    | none => rw [List.filterMap_cons_none h]; rfl
    | some edge => rw [List.filterMap_cons_some h]; rfl

/-- The edges that are added are those that were not there, each of them once. -/
theorem exists_foldl_withEdge (wanted edges : List (String × String)) :
    ∃ gained, wanted.foldl withEdge edges = edges ++ gained ∧ gained.Nodup ∧
      ∀ edge, edge ∈ gained ↔ edge ∈ wanted ∧ edge ∉ edges := by
  induction wanted generalizing edges with
  | nil => exact ⟨[], by simp, .nil, by simp⟩
  | cons edge rest ih =>
    obtain ⟨gained, heq, hnodup, hgained⟩ := ih (withEdge edges edge)
    rw [List.foldl_cons, heq]
    simp only [withEdge, List.contains_iff_mem] at hgained ⊢
    -- an edge that is there already is neither added nor counted as gained
    by_cases hedge : edge ∈ edges
    · simp only [if_pos hedge] at hgained ⊢
      refine ⟨gained, rfl, hnodup, fun other => (hgained other).trans ?_⟩
      refine and_congr_left fun hother => ?_
      rw [List.mem_cons]
      exact ⟨Or.inr, fun h => h.resolve_left fun heq => hother (heq ▸ hedge)⟩
    · simp only [if_neg hedge] at hgained ⊢
      have hnew : edge ∉ gained := fun h => ((hgained edge).1 h).2 (by simp)
      refine ⟨edge :: gained, by simp, List.nodup_cons.2 ⟨hnew, hnodup⟩, fun other => ?_⟩
      rw [List.mem_cons, hgained, List.mem_append, List.mem_singleton, List.mem_cons]
      by_cases hother : other = edge
      · simp [hother, hedge]
      · simp [hother]

theorem mem_foldl_withEdge {wanted edges : List (String × String)} {edge : String × String} :
    edge ∈ wanted.foldl withEdge edges ↔ edge ∈ edges ∨ edge ∈ wanted := by
  obtain ⟨gained, heq, _, hgained⟩ := exists_foldl_withEdge wanted edges
  rw [heq, List.mem_append, hgained]
  tauto

theorem edgeOf?_eq_some_iff {uri source target : String} :
    edgeOf? owner uri = some (source, target) ↔
      owner = some source ∧ source ≠ target ∧
        ∃ mentioned, Mention.ofUri? uri = some mentioned ∧ mentioned.id = target := by
  unfold edgeOf?
  constructor
  · intro h
    split at h
    · next found mentioned hmentioned =>
      split at h
      · cases h
      · next hne =>
        cases h
        exact ⟨rfl, hne, mentioned, hmentioned, rfl⟩
    · cases h
  · rintro ⟨rfl, hne, mentioned, hmentioned, rfl⟩
    simp [hmentioned, hne]

/-! ## What is registered -/

theorem addDependencies_withNestingDepth (assets : Assets) (depth : Nat) (owner : Option String)
    (uris : List String) (registry : Registry) :
    registry.addDependencies (assets.withNestingDepth depth) owner uris =
      registry.addDependencies assets owner uris := by
  unfold Assets.withNestingDepth
  rfl

/-- The edges that an owner gains are those to the other schemas that the scan reaches, as far as it
    lacks them. -/
theorem edges_extract {final : Registry} {properties : Json} {value : Unit}
    (h : extract assets owner properties registry = .ok value final) :
    ∃ gained, final.edges = registry.edges ++ gained ∧ gained.Nodup ∧
      ∀ source target, (source, target) ∈ gained ↔
        owner = some source ∧ source ≠ target ∧ Scan.Reaches properties target ∧
          (source, target) ∉ registry.edges := by
  obtain ⟨complete, rfl⟩ := addScan_eq_ok.1 h
  rw [edges_addDependencies]
  obtain ⟨gained, heq, hnodup, hgained⟩ := exists_foldl_withEdge
    ((Scan.ofProperties assets.config.limits.nestingDepth properties).references.filterMap
      (edgeOf? owner)) registry.edges
  refine ⟨gained, heq, hnodup, fun source target => ?_⟩
  rw [hgained, List.mem_filterMap, ← Scan.mentions_iff_reaches complete]
  simp only [edgeOf?_eq_some_iff]
  constructor
  · rintro ⟨⟨uri, huri, howner, hne, hmentions⟩, hnew⟩
    exact ⟨howner, hne, ⟨uri, huri, hmentions⟩, hnew⟩
  · rintro ⟨howner, hne, ⟨uri, huri, hmentions⟩, hnew⟩
    exact ⟨⟨uri, huri, howner, hne, hmentions⟩, hnew⟩

/-- What registering a map of properties does. If the level of the map reaches the bound, it fails with
    the bound. If not, it succeeds: exactly the ids that the scan reaches get an entry, the owner gains
    exactly the edges that it lacked to those other than itself, each once, and no greater bound makes
    a difference. -/
theorem extract_effect (assets : Assets) (owner : Option String) (properties : Json)
    (registry : Registry) :
    let depth := assets.config.limits.nestingDepth
    (depth ≤ Scan.level properties →
      ∃ final, extract assets owner properties registry = .error (.nestingTooDeep depth) final) ∧
    (Scan.level properties < depth →
      ∃ final, extract assets owner properties registry = .ok () final ∧
        (∀ id, (final.get? id).isSome ↔
          (registry.get? id).isSome ∨ Scan.Reaches properties id) ∧
        (∃ gained, final.edges = registry.edges ++ gained ∧ gained.Nodup ∧
          ∀ source target, (source, target) ∈ gained ↔
            owner = some source ∧ source ≠ target ∧ Scan.Reaches properties target ∧
              (source, target) ∉ registry.edges) ∧
        ∀ larger, depth ≤ larger →
          extract (assets.withNestingDepth larger) owner properties registry = .ok () final) := by
  intro depth
  constructor
  · intro hdeep
    have broken : ¬ (Scan.ofProperties depth properties).complete := fun complete =>
      Nat.not_lt.2 hdeep (Scan.complete_ofProperties_iff.1 complete)
    refine ⟨_, (addScan_apply assets owner _ registry).trans (if_neg broken)⟩
  · intro hwithin
    have complete : (Scan.ofProperties depth properties).complete :=
      Scan.complete_ofProperties_iff.2 hwithin
    have hok : extract assets owner properties registry = .ok () _ :=
      addScan_eq_ok.2 ⟨complete, rfl⟩
    refine ⟨_, hok, isSome_extract_iff hok, edges_extract hok, fun larger hle => ?_⟩
    have hscan := Scan.ofProperties_of_complete complete hle
    refine addScan_eq_ok.2 ⟨?_, ?_⟩
    · rw [← hscan] at complete
      exact complete
    · rw [addDependencies_withNestingDepth]
      exact congrArg (fun scan => registry.addDependencies assets owner scan.references) hscan.symm

/-- A union that is nested one step deep: one level is not enough to scan it, two are. -/
theorem extract_effect_nestedUnion :
    let assets : Assets := ⟨⟨[], []⟩, {}⟩
    Scan.level nestedUnion = 1 ∧
      (∃ final, extract (assets.withNestingDepth 1) (some "A") nestedUnion .empty =
        .error (.nestingTooDeep 1) final) ∧
      ∃ final, extract (assets.withNestingDepth 2) (some "A") nestedUnion .empty = .ok () final ∧
        (final.get? "X").isSome ∧ ("A", "X") ∈ final.edges := by
  intro assets
  have hlt : Scan.level nestedUnion < 2 := Scan.complete_ofProperties_iff.1 (by decide)
  have hle : 1 ≤ Scan.level nestedUnion := by
    rw [← Nat.not_lt, ← Scan.complete_ofProperties_iff]
    decide
  have reaches : Scan.Reaches nestedUnion "X" :=
    ⟨unionOf "X.json", "X.json", ⟨.redfish, "X", none⟩,
      .nested rfl List.mem_cons_self rfl (.property rfl List.mem_cons_self), by decide,
      by decide +kernel, rfl⟩
  obtain ⟨fails, -⟩ := extract_effect (assets.withNestingDepth 1) (some "A") nestedUnion .empty
  obtain ⟨-, succeeds⟩ := extract_effect (assets.withNestingDepth 2) (some "A") nestedUnion .empty
  obtain ⟨final, hok, entries, ⟨gained, hedges, -, hgained⟩, -⟩ := succeeds hlt
  refine ⟨by omega, fails hle, final, hok, (entries "X").2 (Or.inr reaches), ?_⟩
  rw [hedges]
  exact List.mem_append_right _ ((hgained "A" "X").2 ⟨rfl, by decide, reaches, List.not_mem_nil⟩)

end Registry

end ResourceModel

import ResourceModel.Registry.Mention
import ResourceModel.Registry.Scan

set_option autoImplicit false

/-! # What a scan finds

The references in a map of properties are stated by rules, whatever the depth at which they stand:
`Scan.Finds`. A scan finds no others, and one that comes to its end finds all of them. -/

namespace ResourceModel

/-! ## Putting scans together -/

namespace Scan

theorem complete_followedBy (first second : Scan) :
    (first.followedBy second).complete = (first.complete && second.complete) := by
  unfold followedBy
  split
  · next h => simp [h]
  · next h => simp [h]

theorem mem_followedBy {first second : Scan} {uri : String}
    (h : uri ∈ (first.followedBy second).references) :
    uri ∈ first.references ∨ uri ∈ second.references := by
  unfold followedBy at h
  split at h
  · exact List.mem_append.1 h
  · exact Or.inl h

theorem mem_followedBy_iff {first second : Scan} (complete : first.complete) {uri : String} :
    uri ∈ (first.followedBy second).references ↔
      uri ∈ first.references ∨ uri ∈ second.references := by
  simp [followedBy, complete]

theorem complete_all {scans : List Scan} :
    (all scans).complete ↔ ∀ scan ∈ scans, scan.complete := by
  induction scans with
  | nil => simp [all]
  | cons scan rest ih => simp [all, complete_followedBy, ih]

theorem mem_all {scans : List Scan} {uri : String} (h : uri ∈ (all scans).references) :
    ∃ scan ∈ scans, uri ∈ scan.references := by
  induction scans with
  | nil => simp [all] at h
  | cons scan rest ih =>
    rcases mem_followedBy h with h | h
    · exact ⟨scan, List.mem_cons_self, h⟩
    · obtain ⟨found, hfound, huri⟩ := ih h
      exact ⟨found, List.mem_cons_of_mem _ hfound, huri⟩

theorem mem_all_of_complete {scans : List Scan} (complete : (all scans).complete) {scan : Scan}
    (hscan : scan ∈ scans) {uri : String} (huri : uri ∈ scan.references) :
    uri ∈ (all scans).references := by
  induction scans with
  | nil => simp at hscan
  | cons first rest ih =>
    have hall := complete_all.1 complete
    have hrest : (all rest).complete :=
      complete_all.2 fun other hother => hall other (List.mem_cons_of_mem _ hother)
    rw [all, mem_followedBy_iff (hall first List.mem_cons_self)]
    rcases List.mem_cons.1 hscan with rfl | hscan
    · exact Or.inl huri
    · exact Or.inr (ih hrest hscan)

/-! ## The rules -/

/-- The references that stand in a map of properties: those of a property's alternatives, that of
    its items or else its own, and those in the properties nested in it. -/
inductive Finds : Json → String → Prop where
  | alternative {properties : Json} {rows : Table Json} {row : String × Json}
      {alternatives : List Json} {chosen : Json} {uri : String}
      (hrows : properties.object? = some rows) (hrow : row ∈ rows)
      (halternatives : row.2.items? "anyOf" = some alternatives) (hchosen : chosen ∈ alternatives)
      (huri : chosen.text? "$ref" = some uri) : Finds properties uri
  | element {properties : Json} {rows : Table Json} {row : String × Json} {uri : String}
      (hrows : properties.object? = some rows) (hrow : row ∈ rows)
      (huri : (element row.2).text? "$ref" = some uri) : Finds properties uri
  | nested {properties : Json} {rows : Table Json} {row : String × Json} {inner : Json}
      {uri : String} (hrows : properties.object? = some rows) (hrow : row ∈ rows)
      (hinner : (element row.2).get? "properties" = some inner) (h : Finds inner uri) :
      Finds properties uri

theorem mem_ofAlternatives {property : Json} {uri : String} :
    uri ∈ ofAlternatives property ↔
      ∃ alternatives, property.items? "anyOf" = some alternatives ∧
        ∃ chosen ∈ alternatives, chosen.text? "$ref" = some uri := by
  unfold ofAlternatives
  cases property.items? "anyOf" with
  | none => simp
  | some alternatives => simp [List.mem_filterMap]

theorem mem_ofProperty {property : Json} {uri : String} :
    uri ∈ ofProperty property ↔
      uri ∈ ofAlternatives property ∨ (element property).text? "$ref" = some uri := by
  simp [ofProperty, Option.mem_toList]

theorem finds_of_mem_ofProperty {properties : Json} {rows : Table Json} {row : String × Json}
    {uri : String} (hrows : properties.object? = some rows) (hrow : row ∈ rows)
    (huri : uri ∈ ofProperty row.2) : Finds properties uri := by
  rcases mem_ofProperty.1 huri with h | h
  · obtain ⟨alternatives, halternatives, chosen, hchosen, h⟩ := mem_ofAlternatives.1 h
    exact .alternative hrows hrow halternatives hchosen h
  · exact .element hrows hrow h

/-- The scan of one row of a map: its property, and then the properties nested in it. -/
def ofRow (levels : Nat) (row : String × Json) : Scan :=
  (Scan.mk (ofProperty row.2) true).followedBy
    (match (element row.2).get? "properties" with
      | some inner => ofProperties levels inner
      | none => ⟨[], true⟩)

theorem ofProperties_succ (levels : Nat) (properties : Json) :
    ofProperties (levels + 1) properties =
      all (((properties.object?).getD []).map (ofRow levels)) := rfl

/-! ## Scanning -/

/-- A scan finds nothing but what stands in the map. -/
theorem finds_of_mem {levels : Nat} {properties : Json} {uri : String}
    (h : uri ∈ (ofProperties levels properties).references) : Finds properties uri := by
  induction levels generalizing properties with
  | zero => simp [ofProperties] at h
  | succ levels ih =>
    rw [ofProperties_succ] at h
    obtain ⟨scan, hscan, huri⟩ := mem_all h
    obtain ⟨row, hrow, rfl⟩ := List.mem_map.1 hscan
    cases hrows : properties.object? with
    | none => simp [hrows] at hrow
    | some rows =>
      rw [hrows, Option.getD_some] at hrow
      -- a reference of a row stands in its property or in the properties nested in it
      rcases mem_followedBy huri with huri | huri
      · exact finds_of_mem_ofProperty hrows hrow huri
      · split at huri
        · next inner hinner => exact .nested hrows hrow hinner (ih huri)
        · simp at huri

/-- A scan that comes to its end finds everything that stands in the map. -/
theorem mem_of_finds {levels : Nat} {properties : Json} {uri : String}
    (complete : (ofProperties levels properties).complete) (h : Finds properties uri) :
    uri ∈ (ofProperties levels properties).references := by
  induction levels generalizing properties with
  | zero => simp [ofProperties] at complete
  | succ levels ih =>
    rw [ofProperties_succ] at complete ⊢
    -- it is enough to find the reference in the scan of its row
    have inRow : ∀ {rows : Table Json} {row : String × Json}, properties.object? = some rows →
        row ∈ rows → uri ∈ (ofRow levels row).references →
        uri ∈ (all (((properties.object?).getD []).map (ofRow levels))).references := by
      intro rows row hrows hrow huri
      refine mem_all_of_complete complete (List.mem_map_of_mem ?_) huri
      rw [hrows]
      exact hrow
    cases h with
    | alternative hrows hrow halternatives hchosen huri =>
      refine inRow hrows hrow ((mem_followedBy_iff rfl).2 (Or.inl ?_))
      exact mem_ofProperty.2 (Or.inl (mem_ofAlternatives.2 ⟨_, halternatives, _, hchosen, huri⟩))
    | element hrows hrow huri =>
      refine inRow hrows hrow ((mem_followedBy_iff rfl).2 (Or.inl ?_))
      exact mem_ofProperty.2 (Or.inr huri)
    | @nested _ rows row inner _ hrows hrow hinner hnested =>
      have hscan : ofRow levels row ∈ ((properties.object?).getD []).map (ofRow levels) := by
        rw [hrows]
        exact List.mem_map_of_mem hrow
      have hrowComplete := complete_all.1 complete _ hscan
      refine inRow hrows hrow ((mem_followedBy_iff rfl).2 (Or.inr ?_))
      simp only [ofRow, complete_followedBy, hinner, Bool.true_and] at hrowComplete
      simpa only [hinner] using ih hrowComplete hnested

end Scan

/-! ## Documents -/

/-- Whether the definitions of a document hold a reference that mentions a schema. -/
def Json.Mentions (document : Json) (mentioned : Mention) : Prop :=
  ∃ definitions uri, document.get? "definitions" = some definitions ∧ Scan.Finds definitions uri ∧
    Mention.ofUri? uri = some mentioned

/-- The schemas that the references of a scan mention, in their order. -/
def Scan.mentions (scan : Scan) : List Mention :=
  scan.references.filterMap Mention.ofUri?

theorem Scan.mentions_of_mem_mentions {levels : Nat} {document : Json} {mentioned : Mention}
    (h : mentioned ∈ (Scan.ofDocument levels document).mentions) : document.Mentions mentioned := by
  obtain ⟨uri, huri, hmentioned⟩ := List.mem_filterMap.1 h
  unfold ofDocument at huri
  split at huri
  · next definitions hdefinitions =>
    exact ⟨definitions, uri, hdefinitions, finds_of_mem huri, hmentioned⟩
  · simp at huri

/-- The scan of a document that comes to its end finds exactly the schemas that it mentions. -/
theorem Scan.mem_mentions_ofDocument {levels : Nat} {document : Json}
    (complete : (Scan.ofDocument levels document).complete) {mentioned : Mention} :
    mentioned ∈ (Scan.ofDocument levels document).mentions ↔ document.Mentions mentioned := by
  refine ⟨mentions_of_mem_mentions, ?_⟩
  rintro ⟨definitions, uri, hdefinitions, hfinds, hmentioned⟩
  simp only [ofDocument, hdefinitions] at complete
  refine List.mem_filterMap.2 ⟨uri, ?_, hmentioned⟩
  simpa only [ofDocument, hdefinitions] using mem_of_finds complete hfinds

end ResourceModel

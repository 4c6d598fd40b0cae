import ResourceModel.Proofs.Json.Ordered
import ResourceModel.Proofs.Resolution.Outcome
import ResourceModel.Proofs.Store.Binding

set_option autoImplicit false

/-! # Fragments with ordered rows

The documents of a run are read from its files, so the rows of their objects are in order. A chase for
a fragment only goes into such documents, and what it comes to is a part of one of them. -/

namespace ResourceModel

/-! ## Documents -/

theorem Assets.ordered_of_document? {assets : Assets} {standard : Standard} {stem : String}
    {document : Json} (h : assets.document? standard stem = .ok (some document)) :
    document.Ordered := by
  unfold Assets.document? at h
  split at h
  · obtain ⟨read, hread, heq⟩ := Step.except_map_eq_ok.1 h
    obtain rfl := Option.some.inj heq
    unfold Assets.readJson at hread
    split at hread
    · cases hread
    · split at hread
      · next document hparse => exact Except.ok.inj hread ▸ Json.ordered_of_parse hparse
      · cases hread
  · cases h

namespace Store

variable {assets : Assets}

/-- Whether the documents that references name have the rows of their objects in order. -/
def Ordered (assets : Assets) (store : Store) : Prop :=
  ∀ reference document, store.named? assets reference = .ok (some document) → document.Ordered

/-- In a run that reads documents and builds nodes they do. -/
theorem Built.ordered {nodes : List Node} {store : Store} (h : Built assets nodes store) :
    store.Ordered assets := by
  intro reference document hnamed
  cases hstem : reference.stem? with
  | none =>
    rw [named?_of_isLocal (by simp [Reference.isLocal, hstem])] at hnamed
    cases hnamed
  | some stem =>
    rw [← Store.answer_target, h.answer_target hstem] at hnamed
    exact Assets.ordered_of_document? hnamed

end Store

/-! ## Fragments -/

namespace Resolution

variable {assets : Assets} {store : Store} {recursive : Bool}

/-- Whether a fragment and its document have the rows of their objects in order. -/
structure Spot.Ordered (spot : Spot) : Prop where
  fragment : spot.fragment.Ordered
  document : spot.document.Ordered

theorem Opens.ordered {spot : Spot} {walk : Walk} {fragment : Json} (ordered : store.Ordered assets)
    (h : spot.Ordered) (opens : Opens assets store spot walk)
    (located : walk.located? = some fragment) : (walk.spot fragment).Ordered := by
  have hdocument : walk.document.Ordered := by
    have hleads := opens.leads
    unfold led? at hleads
    split at hleads
    · exact Option.some.inj (Except.ok.inj hleads) ▸ h.document
    · exact ordered _ _ hleads
  exact ⟨hdocument.of_strict? located, hdocument⟩

theorem Route.ordered {first last : Spot} {walks : List Walk} (ordered : store.Ordered assets)
    (route : Route assets store first walks last) (h : first.Ordered) : last.Ordered := by
  induction route with
  | here => exact h
  | onward opens located _ ih => exact ih (opens.ordered ordered h located)

theorem ordered_of_resolve {fragment enclosing found : Json} {session final : Session}
    (ordered : session.store.Ordered assets) (hfragment : fragment.Ordered)
    (henclosing : enclosing.Ordered)
    (h : resolve assets fragment (some enclosing) recursive session = .ok (some found) final) :
    found.Ordered := by
  obtain ⟨out, _⟩ := comesOut_of_resolve h
  cases out with
  | found route => exact (route.ordered ordered ⟨hfragment, henclosing⟩).fragment

end Resolution

end ResourceModel

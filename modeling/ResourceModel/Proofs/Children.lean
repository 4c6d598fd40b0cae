import ResourceModel.Node.Children
import ResourceModel.Proofs.Declaration
import ResourceModel.Proofs.Step

set_option autoImplicit false

/-! # References to children

A list of references is read entry by entry, and one entry that is not well-formed spoils the list.
Then there is an error in strict mode and no reference at all otherwise; apart from that both modes
read the same. -/

namespace ResourceModel

namespace ChildReference

/-! ## Entries -/

/-- Whether an entry asks for not being shown. -/
def isHidden (entry : Json) : Bool :=
  match entry.get? "Hide" with
  | some (.bool hidden) => hidden
  | _ => false

/-- The names of the nodes that an entry refers to. -/
def namesIn (entry : Json) : List String :=
  match entry.get? "Node" with
  | some (.string name) => [name]
  | some (.array nodes) => nodes.filterMap Json.string?
  | _ => []

/-- Whether an entry is well-formed: it has the name of a node, or a list of names and the text of a
    field. -/
inductive WellFormed (entry : Json) : Prop where
  | one {name : String} (node : entry.get? "Node" = some (.string name))
  | several {names : List String} {field : String}
      (nodes : entry.get? "Node" = some (.array (names.map .string)))
      (given : entry.get? "Field" = some (.string field))

/-- Whether a reference is the one that an entry describes. The field of a single node has its name
    unless there is a text for it. -/
inductive Describes (entry : Json) : ChildReference → Prop where
  | one {name : String} (node : entry.get? "Node" = some (.string name)) :
      Describes entry {
        nodes := [name]
        field := (entry.text? "Field").getD name
        hidden := isHidden entry
        kind := .object
        classname := ClassName.idReference (ClassName.ofKey name) }
  | several {names : List String} {field : String}
      (nodes : entry.get? "Node" = some (.array (names.map .string)))
      (given : entry.get? "Field" = some (.string field)) :
      Describes entry {
        nodes := names
        field
        hidden := isHidden entry
        kind := .list
        classname := ClassName.listReferences (names.map ClassName.ofKey) }

theorem text?_field_eq_some_iff {entry : Json} {field : String} :
    entry.text? "Field" = some field ↔ entry.get? "Field" = some (.string field) := by
  unfold Json.text?
  rw [Option.bind_eq_some_iff]
  simp only [Json.string?_eq_some_iff, exists_eq_right]

theorem isHidden_eq (entry : Json) :
    ((entry.get? "Hide").bind Json.bool?).getD false = isHidden entry := by
  unfold isHidden
  cases entry.get? "Hide" with
  | none => rfl
  | some value => cases value <;> rfl

theorem names?_eq_some_iff {nodes : List Json} {names : List String} :
    names? nodes = some names ↔ nodes = names.map .string := by
  unfold names?
  induction nodes generalizing names with
  | nil => simp [eq_comm]
  | cons node rest ih =>
    rw [List.mapM_cons]
    simp only [Option.bind_eq_bind, Option.bind_eq_some_iff, Option.pure_def, Option.some.injEq, ih,
      Json.string?_eq_some_iff]
    cases names with
    | nil => simp
    | cons name others => simp [eq_comm]

theorem parse_eq_ok_iff {entry : Json} {reference : ChildReference} :
    parse entry = .ok reference ↔ Describes entry reference := by
  constructor
  · intro h
    simp only [parse, isHidden_eq] at h
    split at h
    · next name hnode =>
      cases h
      exact .one hnode
    · next nodes hnodes =>
      split at h
      · cases h
      · cases h
      · next names field hnames hfield =>
        cases h
        rw [names?_eq_some_iff.1 hnames] at hnodes
        exact .several hnodes (text?_field_eq_some_iff.1 hfield)
    · cases h
    · cases h
  · intro h
    cases h with
    | one hnode => simp only [parse, isHidden_eq, hnode, ofNode]
    | several hnodes hgiven =>
      simp only [parse, isHidden_eq, hnodes, names?_eq_some_iff.2 rfl,
        text?_field_eq_some_iff.2 hgiven, ofNodes]

theorem wellFormed_iff {entry : Json} :
    WellFormed entry ↔ ∃ reference, Describes entry reference := by
  constructor
  · intro h
    cases h with
    | one hnode => exact ⟨_, .one hnode⟩
    | several hnodes hgiven => exact ⟨_, .several hnodes hgiven⟩
  · rintro ⟨reference, h⟩
    cases h with
    | one hnode => exact .one hnode
    | several hnodes hgiven => exact .several hnodes hgiven

theorem Describes.nodes_eq {entry : Json} {reference : ChildReference}
    (h : Describes entry reference) : reference.nodes = namesIn entry := by
  unfold namesIn
  cases h with
  | one hnode => rw [hnode]
  | several hnodes => simp [hnodes, List.filterMap_map, Function.comp_def, Json.string?]

theorem Describes.hidden_eq {entry : Json} {reference : ChildReference}
    (h : Describes entry reference) : reference.hidden = isHidden entry := by
  cases h <;> rfl

end ChildReference

namespace Children

open ChildReference (Describes WellFormed isHidden namesIn)

/-! ## Lists of entries -/

/-- Whether a read request lists entries as its references. Where it has none, or null in the place
    of the list, no entries are listed. -/
inductive Lists (action : Option Json) : List Json → Prop where
  | absent (absent : action.bind (·.get? "Reference") = .none) : Lists action []
  | null (null : action.bind (·.get? "Reference") = some .null) : Lists action []
  | listed {entries : List Json}
      (listed : action.bind (·.get? "Reference") = some (.array entries)) : Lists action entries

theorem forall_wellFormed_iff {entries : List Json} :
    (∀ entry ∈ entries, WellFormed entry) ↔
      ∃ references, List.Forall₂ Describes entries references := by
  induction entries with
  | nil => simp
  | cons entry rest ih =>
    rw [List.forall_mem_cons, ih, ChildReference.wellFormed_iff]
    constructor
    · rintro ⟨⟨reference, hentry⟩, others, hrest⟩
      exact ⟨reference :: others, .cons hentry hrest⟩
    · rintro ⟨references, h⟩
      obtain ⟨reference, others, hentry, hrest, -⟩ := List.forall₂_cons_left_iff.1 h
      exact ⟨⟨reference, hentry⟩, others, hrest⟩

theorem mapM_parse_eq_ok_iff {entries : List Json} {references : List ChildReference} :
    entries.mapM ChildReference.parse = .ok references ↔
      List.Forall₂ Describes entries references := by
  rw [Step.except_mapM_eq_ok]
  simp only [ChildReference.parse_eq_ok_iff]

/-- In strict mode references are read exactly if every entry is described by one of them. -/
theorem parse_strict_eq_ok_iff {action : Option Json} {node : String} {children : Children} :
    parse action node true = .ok children ↔
      ∃ entries, Lists action entries ∧ List.Forall₂ Describes entries children.references := by
  constructor
  · intro h
    unfold parse at h
    split at h
    · next habsent =>
      cases h
      exact ⟨[], .absent habsent, .nil⟩
    · next list hlist =>
      split at h
      · next references hreferences =>
        cases h
        unfold parseList at hreferences
        split at hreferences
        · cases hreferences
          exact ⟨[], .null hlist, .nil⟩
        · next entries => exact ⟨entries, .listed hlist, mapM_parse_eq_ok_iff.1 hreferences⟩
        · cases hreferences
      · cases h
  · rintro ⟨entries, hlists, hdescribes⟩
    cases hlists with
    | absent habsent =>
      simp only [parse, habsent, none, ← List.forall₂_nil_left_iff.1 hdescribes]
    | null hnull =>
      simp only [parse, hnull, parseList, ← List.forall₂_nil_left_iff.1 hdescribes]
    | listed hlisted =>
      simp only [parse, hlisted, parseList, mapM_parse_eq_ok_iff.2 hdescribes]

/-- In lenient mode the same is read, but nothing where strict mode fails. -/
theorem parse_lenient (action : Option Json) (node : String) :
    parse action node false = .ok ((parse action node true).toOption.getD none) := by
  unfold parse
  cases action.bind (·.get? "Reference") with
  | none => rfl
  | some list =>
    simp only
    cases parseList list with
    | ok references => rfl
    | error defect => rfl

/-! ## What was read -/

theorem classnames_of_describes {entries : List Json} {references : List ChildReference}
    (h : List.Forall₂ Describes entries references) :
    (mk references).classnames = entries.flatMap fun entry =>
      (namesIn entry).map ClassName.ofKey := by
  unfold classnames
  induction h with
  | nil => rfl
  | cons hentry _ ih => rw [List.flatMap_cons, List.flatMap_cons, hentry.nodes_eq, ih]

theorem visible_of_describes {entries : List Json} {references : List ChildReference}
    (h : List.Forall₂ Describes entries references) :
    List.Forall₂ Describes (entries.filter fun entry => !isHidden entry)
      (mk references).visible :=
  List.rel_filter (fun _ _ hentry => by simp [hentry.hidden_eq]) h

/-- Lenient mode reads references from whatever is declared. Strict mode does exactly if there is no
    list of references, or each of its entries is well-formed. Then lenient mode reads the same: for
    each entry in order the reference that it describes, among them those that are not shown, whose
    classes count nevertheless. Where strict mode fails, lenient mode reads no reference. -/
theorem parse_strict_or_lenient (action : Option Json) (node : String) :
    (∃ children, parse action node false = .ok children) ∧
    ((∃ children, parse action node true = .ok children) ↔
      ∃ entries, Lists action entries ∧ ∀ entry ∈ entries, WellFormed entry) ∧
    (∀ children, parse action node true = .ok children →
      parse action node false = .ok children ∧
      ∃ entries, Lists action entries ∧
        List.Forall₂ Describes entries children.references ∧
        children.classnames = (entries.flatMap fun entry =>
          (namesIn entry).map ClassName.ofKey) ∧
        children.visible.Sublist children.references ∧
        (∀ reference, reference ∈ children.visible ↔
          reference ∈ children.references ∧ reference.hidden = false) ∧
        List.Forall₂ Describes (entries.filter fun entry => !isHidden entry) children.visible) ∧
    ∀ error, parse action node true = .error error → parse action node false = .ok none := by
  refine ⟨⟨_, parse_lenient action node⟩, ?_, fun children h => ?_, fun error h => ?_⟩
  · simp only [parse_strict_eq_ok_iff, forall_wellFormed_iff]
    constructor
    · rintro ⟨children, entries, hentries, hdescribes⟩
      exact ⟨entries, hentries, children.references, hdescribes⟩
    · rintro ⟨entries, hentries, references, hdescribes⟩
      exact ⟨⟨references⟩, entries, hentries, hdescribes⟩
  · obtain ⟨entries, hentries, hdescribes⟩ := parse_strict_eq_ok_iff.1 h
    refine ⟨by rw [parse_lenient, h]; rfl, entries, hentries, hdescribes,
      classnames_of_describes hdescribes, List.filter_sublist, fun reference => ?_,
      visible_of_describes hdescribes⟩
    simp [visible]
  · rw [parse_lenient, h]
    rfl

/-- One entry that needs a field and has none spoils the list. -/
example :
    let first := Json.object [("Node", .string "A")]
    let second := Json.object [("Node", .array [.string "B"])]
    parse (some (.object [("Reference", .array [first, second])])) "C" false = .ok none := rfl

end Children

end ResourceModel

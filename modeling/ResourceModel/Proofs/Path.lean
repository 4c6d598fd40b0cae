import ResourceModel.Path

set_option autoImplicit false

/-! # Components of joined paths

A path that is joined to another one adds its components to those of the other one, if it starts with
a name. The parent of a path that ends in a name is the text before it. -/

namespace ResourceModel

/-! ## Parts between separators -/

theorem Text.parts_ne_nil (separator : Char) (text : List Char) :
    Text.parts separator text ≠ [] := by
  cases text with
  | nil => simp [Text.parts]
  | cons c rest =>
    unfold Text.parts
    split
    · simp
    · split <;> simp

theorem Text.parts_append (separator : Char) (first second : List Char) :
    Text.parts separator (first ++ separator :: second) =
      Text.parts separator first ++ Text.parts separator second := by
  induction first with
  | nil => simp [Text.parts]
  | cons c rest ih =>
    simp only [List.cons_append, Text.parts, ih]
    split
    · rfl
    · cases hrest : Text.parts separator rest with
      | nil => exact absurd hrest (Text.parts_ne_nil separator rest)
      | cons part others => rfl

theorem Text.parts_of_not_mem {separator : Char} {text : List Char} (h : separator ∉ text) :
    Text.parts separator text = [text] := by
  induction text with
  | nil => rfl
  | cons c rest ih =>
    simp only [List.mem_cons, not_or] at h
    simp only [Text.parts, if_neg (Ne.symm h.1), ih h.2]

theorem Text.intercalate_parts (separator : Char) (text : List Char) :
    [separator].intercalate (Text.parts separator text) = text := by
  induction text with
  | nil => rfl
  | cons c rest ih =>
    obtain ⟨part, others, hparts⟩ := List.exists_cons_of_ne_nil (Text.parts_ne_nil separator rest)
    rw [hparts] at ih
    simp only [Text.parts, hparts]
    split
    · next hc =>
      subst hc
      simpa using ih
    · cases others with
      | nil => simpa using ih
      | cons next others => simpa using ih

theorem Text.mem_of_mem_parts {separator c : Char} {text : List Char} (h : c ∈ text) :
    c = separator ∨ ∃ part ∈ Text.parts separator text, c ∈ part := by
  induction text with
  | nil => simp at h
  | cons d rest ih =>
    obtain ⟨first, others, hparts⟩ := List.exists_cons_of_ne_nil (Text.parts_ne_nil separator rest)
    simp only [Text.parts, hparts] at ih ⊢
    split
    · next hd =>
      rcases List.mem_cons.1 h with rfl | h
      · exact Or.inl hd
      · refine (ih h).imp_right ?_
        rintro ⟨part, hpart, hc⟩
        exact ⟨part, List.mem_cons_of_mem _ hpart, hc⟩
    · rcases List.mem_cons.1 h with rfl | h
      · exact Or.inr ⟨_, List.mem_cons_self, List.mem_cons_self⟩
      · refine (ih h).imp_right ?_
        rintro ⟨part, hpart, hc⟩
        rcases List.mem_cons.1 hpart with rfl | hpart
        · exact ⟨_, List.mem_cons_self, List.mem_cons_of_mem _ hc⟩
        · exact ⟨part, List.mem_cons_of_mem _ hpart, hc⟩

theorem Text.length_parts (separator : Char) (text : List Char) :
    (Text.parts separator text).length = text.count separator + 1 := by
  induction text with
  | nil => rfl
  | cons c rest ih =>
    obtain ⟨first, others, hparts⟩ := List.exists_cons_of_ne_nil (Text.parts_ne_nil separator rest)
    rw [hparts, List.length_cons] at ih
    unfold Text.parts
    split
    · next hc =>
      subst hc
      rw [hparts, List.length_cons, List.length_cons, ih, List.count_cons_self]
    · next hc =>
      simp only [hparts, List.length_cons]
      rw [ih, List.count_cons_of_ne hc]

theorem splitParts_ne_nil (text : String) (separator : Char) : splitParts text separator ≠ [] := by
  unfold splitParts
  simpa using Text.parts_ne_nil separator text.toList

theorem splitParts_slash (first second : String) :
    splitParts (first ++ "/" ++ second) '/' = splitParts first '/' ++ splitParts second '/' := by
  have hslash : (first ++ "/" ++ second).toList = first.toList ++ '/' :: second.toList := by simp
  unfold splitParts
  rw [hslash, Text.parts_append, List.map_append]

theorem intercalate_splitParts (text : String) :
    String.intercalate "/" (splitParts text '/') = text := by
  apply String.toList_injective
  unfold splitParts
  have htexts : List.map (String.toList ∘ String.ofList) = (id : List (List Char) → _) := by
    funext texts
    simp [Function.comp_def]
  rw [String.toList_intercalate, List.map_map, htexts]
  exact Text.intercalate_parts '/' text.toList

theorem splitParts_of_not_mem {text : String} {separator : Char} (h : separator ∉ text.toList) :
    splitParts text separator = [text] := by
  unfold splitParts
  rw [Text.parts_of_not_mem h, List.map_singleton, String.ofList_toList]

namespace Path

/-- A text that stands for a component of its own. -/
structure Segment (name : String) : Prop where
  named : component? name = some (.name name)
  whole : '/' ∉ name.toList

theorem Segment.ne_empty {name : String} (h : Segment name) : name ≠ "" := by
  rintro rfl
  simpa [component?] using h.named

theorem Segment.ne_here {name : String} (h : Segment name) : name ≠ "." := by
  rintro rfl
  simpa [component?] using h.named

theorem Segment.splitParts_eq {name : String} (h : Segment name) :
    splitParts name '/' = [name] :=
  splitParts_of_not_mem h.whole

/-- A name with a long ending stands for a component of its own. -/
theorem segment_append {name ending : String} (long : 2 < ending.length)
    (whole : '/' ∉ name.toList ∧ '/' ∉ ending.toList) : Segment (name ++ ending) := by
  have hlength : 2 < (name ++ ending).length := by
    rw [String.length_append]
    exact Nat.lt_of_lt_of_le long (Nat.le_add_left _ _)
  have hne : ∀ text : String, text.length ≤ 2 → name ++ ending ≠ text := by
    rintro text hshort rfl
    exact absurd hlength (Nat.not_lt.2 hshort)
  refine ⟨?_, ?_⟩
  · simp only [component?, hne "" (by decide), hne "." (by decide), hne ".." (by decide), or_self,
      if_false]
  · simp [whole.1, whole.2]

/-! ## Joining -/

theorem not_isAbsolute_of_splitParts {p : Path} {first : String} {rest : List String}
    (h : splitParts p.text '/' = first :: rest) (named : first ≠ "") : p.isAbsolute = false := by
  unfold isAbsolute
  cases htext : p.text.toList with
  | nil => rfl
  | cons c chars =>
    refine beq_eq_false_iff_ne.2 fun hc => named ?_
    obtain rfl : c = '/' := Option.some.inj hc
    unfold splitParts at h
    rw [htext] at h
    simp only [Text.parts, if_pos, List.map_cons, List.cons.injEq] at h
    exact h.1.symm

theorem filterMap_segments {names : List String} (segments : ∀ name ∈ names, Segment name) :
    names.filterMap component? = names.map .name := by
  induction names with
  | nil => rfl
  | cons name rest ih =>
    obtain ⟨hname, hrest⟩ := List.forall_mem_cons.1 segments
    rw [List.filterMap_cons, hname.named, ih hrest, List.map_cons]

theorem components_of_segments {p : Path} {names : List String}
    (h : splitParts p.text '/' = names) (segments : ∀ name ∈ names, Segment name) :
    p.components = names.map .name := by
  obtain ⟨first, rest, rfl⟩ := List.exists_cons_of_ne_nil (h ▸ splitParts_ne_nil p.text '/')
  have hfirst := segments first List.mem_cons_self
  unfold components
  rw [not_isAbsolute_of_splitParts h hfirst.ne_empty, h]
  simp only [filterMap_segments segments]
  simp [hfirst.ne_here]

/-- The components of a path that goes on behind a slash. -/
theorem components_slash (first second : String) :
    (⟨first ++ "/" ++ second⟩ : Path).components =
      (⟨first ++ "/"⟩ : Path).components ++ (splitParts second '/').filterMap component? := by
  have hsplit := splitParts_slash first second
  have hempty : splitParts (first ++ "/") '/' = splitParts first '/' ++ [""] := by
    simpa [splitParts, Text.parts] using splitParts_slash first ""
  have habsolute : (⟨first ++ "/" ++ second⟩ : Path).isAbsolute =
      (⟨first ++ "/"⟩ : Path).isAbsolute := by
    unfold isAbsolute
    cases hfirst : first.toList <;> simp [hfirst]
  unfold components
  rw [habsolute, hsplit, hempty]
  simp only [List.filterMap_append, List.head?_append, List.append_assoc]
  cases hparts : splitParts first '/' with
  | nil => exact absurd hparts (splitParts_ne_nil first '/')
  | cons part others => simp [component?]

/-- A slash at the end counts only where there is nothing before it. -/
theorem components_closed {text : String} (h : text ≠ "") :
    (⟨text ++ "/"⟩ : Path).components = (⟨text⟩ : Path).components := by
  have hempty : splitParts (text ++ "/") '/' = splitParts text '/' ++ [""] := by
    simpa [splitParts, Text.parts] using splitParts_slash text ""
  have habsolute : (⟨text ++ "/"⟩ : Path).isAbsolute = (⟨text⟩ : Path).isAbsolute := by
    unfold isAbsolute
    cases htext : text.toList with
    | nil => exact absurd (String.toList_injective htext) h
    | cons c chars => simp [htext]
  unfold components
  rw [habsolute, hempty]
  simp only [List.filterMap_append, List.head?_append]
  cases hparts : splitParts text '/' with
  | nil => exact absurd hparts (splitParts_ne_nil text '/')
  | cons part others => simp [component?]

/-- The text of a joined path: the parts of the other path stand at its end. -/
theorem text_join (p : Path) {other : Path} (relative : other.isAbsolute = false) :
    (p.text = "" ∧ (p.join other).text = other.text) ∨
      ∃ front, (p.join other).text = front ++ "/" ++ other.text ∧
        (⟨front ++ "/"⟩ : Path).components = p.components := by
  unfold join
  rw [relative]
  by_cases hempty : p.text = ""
  · exact Or.inl ⟨hempty, by simp [hempty]⟩
  · refine Or.inr ?_
    by_cases hslash : p.text.toList.getLast? = some '/'
    · obtain ⟨front, hfront⟩ := List.getLast?_eq_some_iff.1 hslash
      have htext : p.text = String.ofList front ++ "/" := by
        apply String.toList_injective
        simp [hfront]
      refine ⟨String.ofList front, ?_, ?_⟩
      · simp [htext]
      · rw [← htext]
    · exact ⟨p.text, by simp [hempty, hslash], components_closed hempty⟩

theorem text_child {p : Path} {name : String} (relative : (⟨name⟩ : Path).isAbsolute = false) :
    ∃ rest, (p.child name).text = p.text ++ rest := by
  unfold child join
  rw [relative]
  by_cases hclosed : p.text = "" ∨ p.text.toList.getLast? = some '/'
  · exact ⟨name, by simp [hclosed]⟩
  · exact ⟨"/" ++ name, by simp [hclosed, String.append_assoc]⟩

theorem text_child_ne_empty {p : Path} {name : String} (h : name ≠ "") : (p.child name).text ≠ "" := by
  unfold child join
  split
  · exact h
  · split <;> simp [h]

/-- Names of which both or none start at the root lead to different paths. -/
theorem child_inj {p : Path} {name other : String}
    (same : (⟨name⟩ : Path).isAbsolute = (⟨other⟩ : Path).isAbsolute) :
    p.child name = p.child other ↔ name = other := by
  unfold child join
  rw [same]
  split
  · simp
  · split <;> simp [String.append_right_inj]

/-- Whether a path consists of names. -/
def Ordinary (p : Path) : Prop :=
  ∃ names : List String, p.components = names.map .name

/-- A path that consists of names starts neither at the root nor at the directory where it is. -/
theorem Ordinary.components_eq {p : Path} (h : p.Ordinary) :
    p.isAbsolute = false ∧ p.components = (splitParts p.text '/').filterMap component? := by
  obtain ⟨names, hnames⟩ := h
  have unnamed : ∀ component, (∀ name, component ≠ Component.name name) →
      component ∉ p.components := by
    intro component hne hmem
    rw [hnames] at hmem
    obtain ⟨name, -, heq⟩ := List.mem_map.1 hmem
    exact hne name heq.symm
  have noRoot := unnamed .root (by simp)
  have noHere := unnamed .here (by simp)
  unfold components at noRoot noHere ⊢
  cases habsolute : p.isAbsolute with
  | true => simp [habsolute] at noRoot
  | false =>
    refine ⟨rfl, ?_⟩
    rw [habsolute] at noHere
    by_cases hhere : (splitParts p.text '/').head? = some "."
    · simp [hhere] at noHere
    · simp [hhere]

/-- A path that consists of names adds its components. -/
theorem Ordinary.components_join {other : Path} (h : other.Ordinary) (p : Path) :
    (p.join other).components = p.components ++ other.components := by
  obtain ⟨relative, hother⟩ := h.components_eq
  rcases text_join p relative with ⟨hempty, htext⟩ | ⟨front, htext, hfront⟩
  · have hp : p = ⟨""⟩ := congrArg Path.mk hempty
    have hjoin : p.join other = other := congrArg Path.mk htext
    have hnone : (⟨""⟩ : Path).components = [] := by decide
    rw [hjoin, hp, hnone, List.nil_append]
  · have hjoin : p.join other = ⟨front ++ "/" ++ other.text⟩ := congrArg Path.mk htext
    rw [hjoin, components_slash, hfront, ← hother]

theorem components_join {p other : Path} {names : List String}
    (h : splitParts other.text '/' = names) (segments : ∀ name ∈ names, Segment name) :
    (p.join other).components = p.components ++ names.map .name := by
  have hother := components_of_segments h segments
  have ordinary : other.Ordinary := ⟨names, hother⟩
  rw [ordinary.components_join, hother]

/-! ## Parents -/

theorem trimParts_of_component {part : String} (rest : List String)
    (h : (component? part).isSome = true) : trimParts (part :: rest) = part :: rest := by
  cases rest with
  | nil => rfl
  | cons next rest => simp [trimParts, h]

/-- The parent of a path that ends in a name behind another one. -/
theorem parent?_slash {text name last : String} {front : List String} (segment : Segment name)
    (hparts : splitParts text '/' = front ++ [last]) (hlast : Segment last) :
    (⟨text ++ "/" ++ name⟩ : Path).parent? = some ⟨text⟩ := by
  have hsplit : splitParts (text ++ "/" ++ name) '/' = front ++ [last] ++ [name] := by
    rw [splitParts_slash, hparts, segment.splitParts_eq]
  have hcomponents : (⟨text ++ "/" ++ name⟩ : Path).components.getLast? = some (.name name) := by
    rw [components_slash, segment.splitParts_eq]
    simp [segment.named]
  have hname : (component? name).isSome = true := by rw [segment.named]; rfl
  have hlastSome : (component? last).isSome = true := by rw [hlast.named]; rfl
  have htrim : trimParts (trimParts (front ++ [last] ++ [name]).reverse).tail =
      last :: front.reverse := by
    simp only [List.reverse_append, List.reverse_singleton, List.singleton_append]
    rw [trimParts_of_component _ hname, List.tail_cons, trimParts_of_component _ hlastSome]
  have hnotEmpty : last :: front.reverse ≠ [""] := by
    intro heq
    exact hlast.ne_empty (List.cons.inj heq).1
  unfold parent?
  split
  · next hnil => simp [hnil] at hcomponents
  · next hroot => simp [hroot] at hcomponents
  · have hback : (last :: front.reverse).reverse = splitParts text '/' := by
      rw [hparts, List.reverse_cons, List.reverse_reverse]
    simp only [hsplit, htrim, if_neg hnotEmpty, hback, intercalate_splitParts]

/-- The parent of a joined path that ends in a name behind another one. -/
theorem parent?_join {p : Path} {dir name : String} {names : List String}
    (h : splitParts dir '/' = names) (segments : ∀ name ∈ names, Segment name)
    (segment : Segment name) :
    (p.join ⟨dir ++ "/" ++ name⟩).parent? = some (p.join ⟨dir⟩) := by
  obtain ⟨first, rest, hnames⟩ := List.exists_cons_of_ne_nil (h ▸ splitParts_ne_nil dir '/')
  obtain ⟨front, last, hlast⟩ := List.eq_nil_or_concat names |>.resolve_left (by simp [hnames])
  have hfirst := (segments first (hnames ▸ List.mem_cons_self)).ne_empty
  have hsegment : Segment last := segments last (hlast ▸ by simp)
  have hdir : (⟨dir⟩ : Path).isAbsolute = false :=
    not_isAbsolute_of_splitParts (h.trans hnames) hfirst
  have hfile : (⟨dir ++ "/" ++ name⟩ : Path).isAbsolute = false := by
    have hparts : splitParts (dir ++ "/" ++ name) '/' = first :: (rest ++ [name]) := by
      rw [splitParts_slash, h, hnames, segment.splitParts_eq, List.cons_append]
    exact not_isAbsolute_of_splitParts hparts hfirst
  have hjoin : p.join ⟨dir ++ "/" ++ name⟩ = ⟨(p.join ⟨dir⟩).text ++ "/" ++ name⟩ := by
    unfold join
    rw [hdir, hfile]
    by_cases hslash : p.text = "" ∨ p.text.toList.getLast? = some '/'
    · simp [hslash, String.append_assoc]
    · simp [hslash, String.append_assoc]
  have hparts : ∃ before, splitParts (p.join ⟨dir⟩).text '/' = before ++ [last] := by
    rw [List.concat_eq_append] at hlast
    rcases text_join p hdir with ⟨-, htext⟩ | ⟨before, htext, -⟩
    · exact ⟨front, by rw [htext, h, hlast]⟩
    · exact ⟨splitParts before '/' ++ front, by
        rw [htext, splitParts_slash, h, hlast, List.append_assoc]⟩
  obtain ⟨before, hbefore⟩ := hparts
  rw [hjoin]
  exact parent?_slash segment hbefore hsegment

end Path

end ResourceModel

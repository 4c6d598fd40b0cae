import ResourceModel.Proofs.Text
import ResourceModel.Xml.Markup

set_option autoImplicit false

/-! # Reading lines of markup

A document with a tag on each line is read as its tags, and the content of a tag that is written as
a name with attributes in quotes is read as this name and these attributes. -/

namespace ResourceModel.Xml

theorem length_le_flatMap {α : Type} {f : α → List Char} (items : List α)
    (h : ∀ item, f item ≠ []) : items.length ≤ (items.flatMap f).length := by
  induction items with
  | nil => simp
  | cons item rest ih =>
    have hitem := List.length_pos_iff.2 (h item)
    rw [List.flatMap_cons, List.length_append, List.length_cons]
    omega

/-! ## Attributes -/

/-- A name as it stands in tags and attributes. -/
structure IsName (name : List Char) : Prop where
  nonempty : name ≠ []
  together : ∀ c ∈ name, isGap c = false
  plain : ∀ c ∈ ['=', '"', '\'', '<', '>', '/', '!', '?'], c ∉ name

/-- An attribute as it is written between quotes. -/
structure IsAttribute (row : List Char × List Char) : Prop where
  named : IsName row.1
  plain : ∀ c ∈ ['"', '\'', '<', '>'], c ∉ row.2

/-- An attribute behind a blank, its value in quotes. -/
def attributeText (row : List Char × List Char) : List Char :=
  ' ' :: (row.1 ++ '=' :: '"' :: (row.2 ++ ['"']))

/-- The content of a tag with a name and attributes. -/
def content (name : List Char) (rows : List (List Char × List Char)) : List Char :=
  name ++ rows.flatMap attributeText

variable {name : List Char} {rows : List (List Char × List Char)}

theorem nameOf_content (isName : IsName name) : nameOf (content name rows) = name := by
  have hname : ∀ c ∈ name, (!isGap c) = true := fun c hc => by simp [isName.together c hc]
  unfold nameOf content
  rw [List.takeWhile_append_of_pos hname]
  cases rows with
  | nil => simp
  | cons row rest => simp [attributeText, isGap]

theorem readAttribute_row {known : List (List Char)} {first : Char} {value : List Char}
    (isAttribute : IsAttribute (first :: name, value)) (new : first :: name ∉ known)
    (rest : List Char) :
    readAttribute known first (name ++ '=' :: '"' :: (value ++ '"' :: rest)) =
      ((first :: name) :: known, ⟨some (first :: name, value), rest⟩) := by
  have hname : ∀ c ∈ name, (decide (c ≠ '=') && !isGap c) = true := fun c hc => by
    have hequals : c ≠ '=' := fun h =>
      isAttribute.named.plain '=' (by simp) (h ▸ List.mem_cons_of_mem first hc)
    simp [hequals, isAttribute.named.together c (List.mem_cons_of_mem first hc)]
  have htake : (name ++ '=' :: '"' :: (value ++ '"' :: rest)).takeWhile
      (fun c => decide (c ≠ '=') && !isGap c) = name := by
    rw [List.takeWhile_append_of_pos hname]
    simp
  have hvalue := Text.cut?_of_not_mem (isAttribute.plain '"' (by simp)) rest
  have hdrop : ((name ++ '=' :: '"' :: (value ++ '"' :: rest)).drop name.length).dropWhile isGap =
      '=' :: '"' :: (value ++ '"' :: rest) := by
    rw [List.drop_left, List.dropWhile_cons_of_neg (by decide)]
  have hread : readValue (first :: name) ('"' :: (value ++ '"' :: rest)) =
      ⟨some (first :: name, value), rest⟩ := by
    unfold readValue
    rw [List.dropWhile_cons_of_neg (by decide)]
    simp [hvalue]
  unfold readAttribute
  rw [htake]
  simp only [List.length_cons, Nat.add_sub_cancel, hdrop]
  simp [new, hread]

theorem attributesFrom_rows {fuel : Nat} {known : List (List Char)} (enough : rows.length ≤ fuel)
    (isAttribute : ∀ row ∈ rows, IsAttribute row) (new : ∀ row ∈ rows, row.1 ∉ known)
    (nodup : (rows.map Prod.fst).Nodup) :
    attributesFrom fuel known (rows.flatMap attributeText) = rows := by
  induction rows generalizing fuel known with
  | nil => cases fuel <;> rfl
  | cons row rest ih =>
    obtain ⟨key, value⟩ := row
    obtain ⟨hrow, hrest⟩ := List.forall_mem_cons.1 isAttribute
    obtain ⟨hkey, hkeys⟩ := List.nodup_cons.1 nodup
    obtain ⟨hnew, hothers⟩ := List.forall_mem_cons.1 new
    obtain ⟨fuel, rfl⟩ := Nat.exists_eq_add_of_le' (Nat.le_of_add_left_le enough)
    obtain ⟨first, tail, rfl⟩ := List.exists_cons_of_ne_nil hrow.named.nonempty
    have hfirst : isGap first = false := hrow.named.together first List.mem_cons_self
    have hothers : ∀ row ∈ rest, row.1 ∉ (first :: tail) :: known := fun row hmem hknown =>
      (List.mem_cons.1 hknown).elim (fun heq => hkey (List.mem_map.2 ⟨row, hmem, heq⟩))
        (hothers row hmem)
    have htext : ((((first :: tail, value) :: rest).flatMap attributeText).dropWhile isGap) =
        first :: (tail ++ '=' :: '"' :: (value ++ '"' :: rest.flatMap attributeText)) := by
      rw [List.flatMap_cons, attributeText, List.cons_append,
        List.dropWhile_cons_of_pos (by decide)]
      simp [hfirst]
    rw [attributesFrom, htext]
    simp only [readAttribute_row hrow hnew, ih (Nat.le_of_succ_le_succ enough) hrest hothers hkeys]
    rfl

/-- The attributes of a tag are read as they were written. -/
theorem attributes_content (isName : IsName name) (isAttribute : ∀ row ∈ rows, IsAttribute row)
    (nodup : (rows.map Prod.fst).Nodup) : attributes (content name rows) = rows := by
  have hdrop : (content name rows).drop name.length = rows.flatMap attributeText :=
    List.drop_left
  unfold attributes
  rw [nameOf_content isName, hdrop]
  have hlength := length_le_flatMap rows fun row => List.cons_ne_nil ' '
    (row.1 ++ '=' :: '"' :: (row.2 ++ ['"']))
  refine attributesFrom_rows (Nat.le_succ_of_le ?_) isAttribute (by simp) nodup
  unfold content
  rw [List.length_append]
  exact Nat.le_add_left_of_le hlength

/-! ## Tags -/

/-- The quote that a tag is in after a character. -/
def quoteAfter (inQuotes : Option Char) (c : Char) : Option Char :=
  match inQuotes with
  | none => if c = '"' ∨ c = '\'' then some c else none
  | some quote => if c = quote then none else some quote

theorem tagContent?_append {text : List Char} (h : '>' ∉ text) (inQuotes : Option Char)
    (rest : List Char) :
    tagContent? inQuotes (text ++ rest) =
      (tagContent? (text.foldl quoteAfter inQuotes) rest).map fun pair =>
        (text ++ pair.1, pair.2) := by
  induction text generalizing inQuotes with
  | nil => simp
  | cons c text ih =>
    simp only [List.mem_cons, not_or] at h
    have hc : ¬ (inQuotes = none ∧ c = '>') := fun hboth => h.1 hboth.2.symm
    have hstep : tagContent? inQuotes (c :: (text ++ rest)) =
        (tagContent? (quoteAfter inQuotes c) (text ++ rest)).map fun pair =>
          (c :: pair.1, pair.2) := by
      conv_lhs => unfold tagContent?
      exact if_neg hc
    rw [List.cons_append, hstep, ih h.2, List.foldl_cons, Option.map_map]
    rfl

theorem tagContent?_of_balanced {text : List Char} (h : '>' ∉ text)
    (balanced : text.foldl quoteAfter none = none) (rest : List Char) :
    tagContent? none (text ++ '>' :: rest) = some (text, rest) := by
  rw [tagContent?_append h, balanced]
  simp [tagContent?]

theorem foldl_quoteAfter_of_plain {text : List Char} (h : ∀ c ∈ ['"', '\''], c ∉ text)
    {inQuotes : Option Char} (inside : ∀ quote ∈ inQuotes, quote ∈ ['"', '\'']) :
    text.foldl quoteAfter inQuotes = inQuotes := by
  induction text with
  | nil => rfl
  | cons c text ih =>
    have hquote : c ≠ '"' := fun heq => h '"' (by simp) (heq ▸ List.mem_cons_self)
    have hmark : c ≠ '\'' := fun heq => h '\'' (by simp) (heq ▸ List.mem_cons_self)
    have hstep : quoteAfter inQuotes c = inQuotes := by
      cases inQuotes with
      | none => simp [quoteAfter, hquote, hmark]
      | some quote =>
        have hne : c ≠ quote := by
          rintro rfl
          simpa [hquote, hmark] using inside c rfl
        simp [quoteAfter, hne]
    rw [List.foldl_cons, hstep]
    exact ih fun d hd => List.not_mem_of_not_mem_cons (h d hd)

theorem foldl_quoteAfter_row {row : List Char × List Char} (isAttribute : IsAttribute row) :
    (attributeText row).foldl quoteAfter none = none := by
  have hname : row.1.foldl quoteAfter none = none :=
    foldl_quoteAfter_of_plain (fun c hc => isAttribute.named.plain c
      (List.subset_def.1 (by decide) hc)) (by simp)
  have hvalue : row.2.foldl quoteAfter (some '"') = some '"' :=
    foldl_quoteAfter_of_plain (fun c hc => isAttribute.plain c
      (List.subset_def.1 (by decide) hc)) (by simp)
  have hblank : quoteAfter none ' ' = none := by decide
  have hequals : quoteAfter none '=' = none := by decide
  have hopens : quoteAfter none '"' = some '"' := by decide
  have hcloses : quoteAfter (some '"') '"' = none := by decide
  simp only [attributeText, List.foldl_cons, List.foldl_append, List.foldl_nil, hblank, hname,
    hequals, hopens, hvalue, hcloses]

theorem balanced_content (isName : IsName name) (isAttribute : ∀ row ∈ rows, IsAttribute row) :
    (content name rows).foldl quoteAfter none = none := by
  have hname : name.foldl quoteAfter none = none :=
    foldl_quoteAfter_of_plain (fun c hc => isName.plain c
      (List.subset_def.1 (by decide) hc)) (by simp)
  unfold content
  rw [List.foldl_append, hname]
  induction rows with
  | nil => rfl
  | cons row rest ih =>
    obtain ⟨hrow, hrest⟩ := List.forall_mem_cons.1 isAttribute
    rw [List.flatMap_cons, List.foldl_append, foldl_quoteAfter_row hrow, ih hrest]

theorem not_mem_content (isName : IsName name) (isAttribute : ∀ row ∈ rows, IsAttribute row) :
    '>' ∉ content name rows := by
  intro h
  rcases List.mem_append.1 h with hname | hrows
  · exact isName.plain '>' (by simp) hname
  · obtain ⟨row, hrow, hmem⟩ := List.mem_flatMap.1 hrows
    have hkey := (isAttribute row hrow).named.plain '>' (by simp)
    have hvalue := (isAttribute row hrow).plain '>' (by simp)
    simp [attributeText, hkey, hvalue] at hmem

theorem content_eq_cons (isName : IsName name) (rows : List (List Char × List Char)) :
    ∃ c rest, content name rows = c :: rest ∧ c ≠ '!' ∧ c ≠ '?' ∧ c ≠ '/' := by
  obtain ⟨c, tail, rfl⟩ := List.exists_cons_of_ne_nil isName.nonempty
  have plain : ∀ d ∈ ['=', '"', '\'', '<', '>', '/', '!', '?'], c ≠ d := fun d hd heq =>
    isName.plain d hd (heq ▸ List.mem_cons_self)
  exact ⟨c, tail ++ rows.flatMap attributeText, rfl, plain '!' (by simp), plain '?' (by simp),
    plain '/' (by simp)⟩

theorem getLast?_content (nonempty : rows ≠ []) : (content name rows).getLast? = some '"' := by
  obtain ⟨front, row, rfl⟩ := (List.eq_nil_or_concat rows).resolve_left nonempty
  rw [content, List.concat_eq_append, List.flatMap_append, List.flatMap_singleton, attributeText]
  simp [List.getLast?_append, List.getLast?_cons]

/-! ## Lines -/

/-- A tag as it is written behind its bracket. -/
def tagText : Tag → List Char
  | .opening content => content ++ ['>']
  | .empty content => content ++ ['/', '>']
  | .closing name => '/' :: (name ++ ['>'])

/-- Whether a tag is written with a name and attributes in quotes. -/
inductive Written : Tag → Prop
  | opening {name : List Char} {rows : List (List Char × List Char)} (isName : IsName name)
      (isAttribute : ∀ row ∈ rows, IsAttribute row) (nonempty : rows ≠ []) :
      Written (.opening (content name rows))
  | empty {name : List Char} {rows : List (List Char × List Char)} (isName : IsName name)
      (isAttribute : ∀ row ∈ rows, IsAttribute row) : Written (.empty (content name rows))
  | closing {name : List Char} (isName : IsName name) : Written (.closing name)

/-- What is no declaration, instruction or end tag is a tag with its content. -/
theorem construct?_of_content {c : Char} {text rest inner : List Char} (declares : c ≠ '!')
    (instructs : c ≠ '?') (closes : c ≠ '/')
    (h : tagContent? none (c :: text) = some (inner, rest)) :
    construct? (c :: text) = match Text.before? ['/'] inner with
      | some inner => some (some (.empty inner), rest)
      | none => some (some (.opening inner), rest) := by
  unfold construct?
  split
  · next heq => exact absurd heq (List.cons_ne_nil _ _)
  · next heq => exact absurd (List.cons.inj heq).1 declares
  · next heq => exact absurd (List.cons.inj heq).1 instructs
  · next heq => exact absurd (List.cons.inj heq).1 closes
  · rw [h]
    cases hbefore : Text.before? ['/'] inner with
    | none => simp [hbefore]
    | some content => simp [hbefore]

theorem closingName_of_isName (isName : IsName name) : closingName name = name := by
  have hlast : name.reverse.dropWhile isGap = name.reverse := by
    cases hreverse : name.reverse with
    | nil => rfl
    | cons c rest =>
      have hc : c ∈ name := List.mem_reverse.1 (hreverse ▸ List.mem_cons_self)
      rw [List.dropWhile_cons_of_neg (by simp [isName.together c hc])]
  unfold closingName
  rw [hlast, List.reverse_reverse]
  simp [isName.nonempty]

/-- A tag is read as it was written. -/
theorem construct?_tagText {tag : Tag} (written : Written tag) (rest : List Char) :
    construct? (tagText tag ++ rest) = some (some tag, rest) := by
  cases written with
  | @opening name rows isName isAttribute nonempty =>
    -- the content begins with a character of a name, so no other construct begins here
    obtain ⟨c, tail, hcontent, declares, instructs, closes⟩ := content_eq_cons isName rows
    have hread := tagContent?_of_balanced (not_mem_content isName isAttribute)
      (balanced_content isName isAttribute) rest
    have hlast : Text.before? ['/'] (content name rows) = none :=
      Text.before?_of_getLast? (getLast?_content nonempty) (by decide)
    rw [tagText, List.append_assoc, List.singleton_append]
    rw [hcontent] at hread hlast ⊢
    rw [List.cons_append] at hread ⊢
    rw [construct?_of_content declares instructs closes hread, hlast]
  | @empty name rows isName isAttribute =>
    obtain ⟨c, tail, hcontent, declares, instructs, closes⟩ := content_eq_cons isName rows
    have hbalanced : (content name rows ++ ['/']).foldl quoteAfter none = none := by
      rw [List.foldl_append, balanced_content isName isAttribute]
      decide
    have hread := tagContent?_of_balanced
      (by simp [not_mem_content isName isAttribute]) hbalanced rest
    have hlast := Text.before?_append (content name rows) ['/']
    have htext : tagText (.empty (content name rows)) ++ rest =
        content name rows ++ ['/'] ++ '>' :: rest := by
      simp [tagText]
    rw [htext]
    rw [hcontent] at hread hlast ⊢
    rw [List.cons_append] at hlast
    rw [List.cons_append, List.cons_append] at hread ⊢
    rw [construct?_of_content declares instructs closes hread, hlast]
  | @closing name isName =>
    have hbalanced : name.foldl quoteAfter none = none :=
      foldl_quoteAfter_of_plain (fun c hc => isName.plain c
        (List.subset_def.1 (by decide) hc)) (by simp)
    have hread := tagContent?_of_balanced (isName.plain '>' (by simp)) hbalanced rest
    rw [tagText, List.cons_append, List.append_assoc, List.singleton_append]
    unfold construct?
    simp only [hread, Option.map_some, closingName_of_isName isName]

/-- A tag on a line of its own, behind the given blanks. -/
def lineText (line : List Char × Tag) : List Char :=
  line.1 ++ '<' :: (tagText line.2 ++ ['\n'])

/-- The first tag of a text is taken off, if the open elements allow it. -/
theorem tagsFrom_tag {fuel : Nat} {names after : List (List Char)} {gap : List Char} {tag : Tag}
    (bare : '<' ∉ gap) (written : Written tag) (opens : openAfter? names tag = some after)
    (rest : List Char) :
    tagsFrom (fuel + 1) names (gap ++ '<' :: (tagText tag ++ rest)) =
      (tagsFrom fuel after rest).map (tag :: ·) := by
  rw [tagsFrom, Text.cut?_of_not_mem bare]
  simp only [construct?_tagText written, opens]

/-- A text with a tag on each line is read as these tags, if each end tag ends the last element. -/
theorem tagsFrom_lines {fuel : Nat} {names last : List (List Char)}
    {lines : List (List Char × Tag)} (enough : lines.length ≤ fuel)
    (indented : ∀ line ∈ lines, '<' ∉ line.1 ∧ Written line.2)
    (opens : (lines.map Prod.snd).foldlM openAfter? names = some last) {gap : List Char}
    (bare : '<' ∉ gap) :
    tagsFrom fuel names (gap ++ lines.flatMap lineText) = some (lines.map Prod.snd) := by
  induction lines generalizing fuel names gap with
  | nil =>
    cases fuel with
    | zero => rfl
    | succ fuel =>
      rw [List.flatMap_nil, List.append_nil, tagsFrom, Text.cut?_eq_none bare]
      rfl
  | cons line rest ih =>
    obtain ⟨blanks, tag⟩ := line
    obtain ⟨⟨hblanks, hwritten⟩, hrest⟩ := List.forall_mem_cons.1 indented
    obtain ⟨fuel, rfl⟩ := Nat.exists_eq_add_of_le' (Nat.le_of_add_left_le enough)
    rw [List.map_cons, List.foldlM_cons] at opens
    obtain ⟨after, hopens, hafter⟩ := Option.bind_eq_some_iff.1 opens
    have hbare : '<' ∉ gap ++ blanks := by simp [bare, hblanks]
    have hnext := ih (Nat.le_of_succ_le_succ enough) hrest hafter
      (show '<' ∉ ['\n'] by decide)
    have htext : gap ++ ((blanks, tag) :: rest).flatMap lineText =
        (gap ++ blanks) ++ '<' :: (tagText tag ++ (['\n'] ++ rest.flatMap lineText)) := by
      simp [lineText]
    rw [htext, tagsFrom_tag hbare hwritten hopens, hnext]
    rfl

end ResourceModel.Xml

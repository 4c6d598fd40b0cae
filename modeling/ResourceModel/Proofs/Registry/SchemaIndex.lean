import ResourceModel.Proofs.Json
import ResourceModel.Proofs.Table
import ResourceModel.Proofs.Text
import ResourceModel.Registry.Index

set_option autoImplicit false

/-! # The index of one schema reads back

Replacing a placeholder in the text of a value is replacing it in the texts that the value holds. So
the index of a schema, whose placeholders are replaced in its text one after the other, is the text
of a value, and reading it gives this value. -/

namespace ResourceModel

open Text

/-! ## Replacing in layouts -/

/-- A placeholder as it stands in a text: it opens with a brace, and neither a quote nor a line end
    stands in it. -/
structure Mark (piece : String) : Prop where
  opens : ∃ c rest, piece.toList = '{' :: c :: rest
  unquoted : '"' ∉ piece.toList
  inline : '\n' ∉ piece.toList

/-- A text that is written as it is between quotes. -/
def Verbatim (text : String) : Prop :=
  ∀ c ∈ text.toList, Json.escapeChar c = [c]

namespace Mark

variable {piece : String} (mark : Mark piece)
include mark

theorem replaceFrom_of_not_mem {text : List Char} (h : '{' ∉ text) (other rest : List Char) :
    replaceFrom piece.toList other 0 (text ++ rest) =
      text ++ replaceFrom piece.toList other 0 rest := by
  obtain ⟨c, tail, hpiece⟩ := mark.opens
  rw [hpiece]
  exact replaceFrom_append_of_not_mem h (c :: tail) other rest

/-- What stands before a quote and what stands behind it are replaced by themselves. -/
theorem replaceFrom_quote (other text rest : List Char) :
    replaceFrom piece.toList other 0 (text ++ '"' :: rest) =
      replaceFrom piece.toList other 0 text ++ '"' :: replaceFrom piece.toList other 0 rest := by
  obtain ⟨c, tail, hpiece⟩ := mark.opens
  exact replaceFrom_append_cons (by simp [hpiece]) mark.unquoted other rest (Nat.zero_le _)

/-- The brace at the end of a line starts no placeholder. -/
theorem replaceFrom_brace (other rest : List Char) :
    replaceFrom piece.toList other 0 ('{' :: '\n' :: rest) =
      '{' :: '\n' :: replaceFrom piece.toList other 0 rest := by
  obtain ⟨c, tail, hpiece⟩ := mark.opens
  have hcut := replaceFrom_append_cons (by simp [hpiece]) mark.inline other rest
    (Nat.zero_le ['{'].length)
  have hbrace : replaceFrom piece.toList other 0 ['{'] = ['{'] := by
    refine (replaceFrom_of_no_start fun hstarts => ?_).trans rfl
    simpa [hpiece] using hstarts.length_le
  rw [hbrace] at hcut
  exact hcut

end Mark

theorem Verbatim.toList_quote {text : String} (h : Verbatim text) :
    (Json.quote text).toList = '"' :: (text.toList ++ ['"']) := by
  have hescape : text.toList.flatMap Json.escapeChar = text.toList :=
    (List.flatMap_congr h).trans (List.flatMap_singleton' _)
  simp [Json.quote, hescape]

theorem Verbatim.replacePiece {text other : String} (h : Verbatim text) (value : Verbatim other)
    (piece : String) : Verbatim (replacePiece text piece other) := by
  intro c hc
  rw [ResourceModel.replacePiece, String.toList_ofList] at hc
  exact (mem_replaceFrom hc).elim (value c) (h c)

namespace Json

mutual

/-- Whether placeholders of a value can only stand in its texts, which are written as they are. -/
def IsTemplate : Json → Prop
  | null => True
  | bool _ => True
  | number (.integer (.ofNat _)) => True
  | number _ => False
  | string s => Verbatim s
  | array items => AreTemplates items
  | object rows => rows ≠ [] ∧ RowsAreTemplates rows

/-- Whether placeholders of items can only stand in their texts. -/
def AreTemplates : List Json → Prop
  | [] => True
  | item :: rest => IsTemplate item ∧ AreTemplates rest

/-- Whether placeholders of rows can only stand in the texts of their values. -/
def RowsAreTemplates : List (String × Json) → Prop
  | [] => True
  | (key, value) :: rest => '{' ∉ (quote key).toList ∧ IsTemplate value ∧ RowsAreTemplates rest

end

mutual

/-- The value with each of its texts changed. -/
def mapTexts (f : String → String) : Json → Json
  | array items => array (mapItems f items)
  | object rows => object (mapRows f rows)
  | null => null
  | bool b => bool b
  | number n => number n
  | string s => string (f s)

/-- Items with each of their texts changed. -/
def mapItems (f : String → String) : List Json → List Json
  | [] => []
  | item :: rest => mapTexts f item :: mapItems f rest

/-- Rows with each text of their values changed. -/
def mapRows (f : String → String) : List (String × Json) → List (String × Json)
  | [] => []
  | (key, value) :: rest => (key, mapTexts f value) :: mapRows f rest

end

theorem brace_not_mem_line (width level : Nat) : '{' ∉ line width level := by
  simp [line]

theorem brace_not_mem_natText (n : Nat) : '{' ∉ (natText n).toList := by
  intro h
  rw [toList_natText] at h
  have hdigit := isDigit_toDigits n _ h
  simp at hdigit

mutual

/-- A placeholder is replaced in the layout of a value as it is replaced in the value's texts. -/
theorem replaceFrom_layout {piece other : String} (mark : Mark piece)
    (value : Verbatim other) (width level : Nat) : (template : Json) → IsTemplate template →
    ∀ rest : List Char,
      replaceFrom piece.toList other.toList 0 (layout width level template ++ rest) =
        layout width level (template.mapTexts fun text => replacePiece text piece other) ++
          replaceFrom piece.toList other.toList 0 rest
  | null, _, rest => mark.replaceFrom_of_not_mem (by simp [layout]) _ rest
  | bool true, _, rest => mark.replaceFrom_of_not_mem (by simp [layout]) _ rest
  | bool false, _, rest => mark.replaceFrom_of_not_mem (by simp [layout]) _ rest
  | number (.integer (.ofNat n)), _, rest =>
    mark.replaceFrom_of_not_mem (brace_not_mem_natText n) _ rest
  | number (.integer (.negSucc _)), h, _ => absurd h id
  | number (.float _), h, _ => absurd h id
  | string s, h, rest => by
    have hafter : Verbatim (replacePiece s piece other) := Verbatim.replacePiece h value piece
    have hopens := mark.replaceFrom_quote other.toList [] (s.toList ++ '"' :: rest)
    have hcloses := mark.replaceFrom_quote other.toList s.toList rest
    have hreplaced : (replacePiece s piece other).toList =
        replaceFrom piece.toList other.toList 0 s.toList := String.toList_ofList
    rw [mapTexts, layout, layout, Verbatim.toList_quote h, hafter.toList_quote, hreplaced]
    simp only [List.cons_append, List.append_assoc, List.nil_append] at hopens ⊢
    rw [hopens, hcloses]
    rfl
  | array [], _, rest => mark.replaceFrom_of_not_mem (by simp [layout]) _ rest
  | array (item :: items), h, rest => by
    have htext : layout width level (array (item :: items)) ++ rest =
        ('[' :: line width (level + 1)) ++ (layoutItems width (level + 1) (item :: items) ++
          (line width level ++ [']'] ++ rest)) := by
      simp [layout]
    rw [htext, mark.replaceFrom_of_not_mem (by simp [brace_not_mem_line]),
      replaceFrom_layoutItems mark value width (level + 1) (item :: items) h,
      mark.replaceFrom_of_not_mem (by simp [brace_not_mem_line])]
    simp [layout, mapTexts, mapItems]
  | object [], h, _ => absurd rfl h.1
  | object (row :: rows), h, rest => by
    have htext : layout width level (object (row :: rows)) ++ rest =
        '{' :: '\n' :: (List.replicate (width * (level + 1)) ' ' ++
          (layoutRows width (level + 1) (row :: rows) ++
            (line width level ++ ['}'] ++ rest))) := by
      simp [layout, line]
    rw [htext, mark.replaceFrom_brace, mark.replaceFrom_of_not_mem (by simp),
      replaceFrom_layoutRows mark value width (level + 1) (row :: rows) h.2,
      mark.replaceFrom_of_not_mem (by simp [brace_not_mem_line])]
    simp [layout, mapTexts, mapRows, line]

theorem replaceFrom_layoutItems {piece other : String} (mark : Mark piece)
    (value : Verbatim other) (width level : Nat) : (items : List Json) → AreTemplates items →
    ∀ rest : List Char,
      replaceFrom piece.toList other.toList 0 (layoutItems width level items ++ rest) =
        layoutItems width level (mapItems (fun text => replacePiece text piece other) items) ++
          replaceFrom piece.toList other.toList 0 rest
  | [], _, _ => rfl
  | [item], h, rest => replaceFrom_layout mark value width level item h.1 rest
  | item :: next :: items, h, rest => by
    have htext : layoutItems width level (item :: next :: items) ++ rest =
        layout width level item ++ ((',' :: line width level) ++
          (layoutItems width level (next :: items) ++ rest)) := by
      simp [layoutItems]
    rw [htext, replaceFrom_layout mark value width level item h.1,
      mark.replaceFrom_of_not_mem (by simp [brace_not_mem_line]),
      replaceFrom_layoutItems mark value width level (next :: items) h.2]
    simp [layoutItems, mapItems]

theorem replaceFrom_layoutRows {piece other : String} (mark : Mark piece)
    (value : Verbatim other) (width level : Nat) : (rows : List (String × Json)) →
    RowsAreTemplates rows → ∀ rest : List Char,
      replaceFrom piece.toList other.toList 0 (layoutRows width level rows ++ rest) =
        layoutRows width level (mapRows (fun text => replacePiece text piece other) rows) ++
          replaceFrom piece.toList other.toList 0 rest
  | [], _, _ => rfl
  | [(key, template)], h, rest => by
    have htext : layoutRows width level [(key, template)] ++ rest =
        ((quote key).toList ++ [':', ' ']) ++ (layout width level template ++ rest) := by
      simp [layoutRows]
    rw [htext, mark.replaceFrom_of_not_mem (by simp [h.1]),
      replaceFrom_layout mark value width level template h.2.1]
    simp [layoutRows, mapRows]
  | (key, template) :: next :: rows, h, rest => by
    have htext : layoutRows width level ((key, template) :: next :: rows) ++ rest =
        ((quote key).toList ++ [':', ' ']) ++ (layout width level template ++
          ((',' :: line width level) ++ (layoutRows width level (next :: rows) ++ rest))) := by
      simp [layoutRows]
    rw [htext, mark.replaceFrom_of_not_mem (by simp [h.1]),
      replaceFrom_layout mark value width level template h.2.1,
      mark.replaceFrom_of_not_mem (by simp [brace_not_mem_line]),
      replaceFrom_layoutRows mark value width level (next :: rows) h.2.2]
    simp [layoutRows, mapRows]

end

mutual

theorem mapTexts_id : (value : Json) → mapTexts id value = value
  | null => rfl
  | bool _ => rfl
  | number _ => rfl
  | string _ => rfl
  | array items => congrArg array (mapItems_id items)
  | object rows => congrArg object (mapRows_id rows)

theorem mapItems_id : (items : List Json) → mapItems id items = items
  | [] => rfl
  | item :: rest => by rw [mapItems, mapTexts_id item, mapItems_id rest]

theorem mapRows_id : (rows : List (String × Json)) → mapRows id rows = rows
  | [] => rfl
  | (key, value) :: rest => by rw [mapRows, mapTexts_id value, mapRows_id rest]

end

mutual

theorem mapTexts_mapTexts (f g : String → String) : (value : Json) →
    mapTexts g (mapTexts f value) = mapTexts (g ∘ f) value
  | null => rfl
  | bool _ => rfl
  | number _ => rfl
  | string _ => rfl
  | array items => congrArg array (mapItems_mapItems f g items)
  | object rows => congrArg object (mapRows_mapRows f g rows)

theorem mapItems_mapItems (f g : String → String) : (items : List Json) →
    mapItems g (mapItems f items) = mapItems (g ∘ f) items
  | [] => rfl
  | item :: rest => by
    rw [mapItems, mapItems, mapItems, mapTexts_mapTexts f g item, mapItems_mapItems f g rest]

theorem mapRows_mapRows (f g : String → String) : (rows : List (String × Json)) →
    mapRows g (mapRows f rows) = mapRows (g ∘ f) rows
  | [] => rfl
  | (key, value) :: rest => by
    rw [mapRows, mapRows, mapRows, mapTexts_mapTexts f g value, mapRows_mapRows f g rest]

end

mutual

theorem isTemplate_mapTexts {f : String → String}
    (keeps : ∀ text, Verbatim text → Verbatim (f text)) : (value : Json) → IsTemplate value →
      IsTemplate (mapTexts f value)
  | null, _ => trivial
  | bool _, _ => trivial
  | number (.integer (.ofNat _)), _ => trivial
  | number (.integer (.negSucc _)), h => absurd h id
  | number (.float _), h => absurd h id
  | string s, h => keeps s h
  | array items, h => areTemplates_mapItems keeps items h
  | object [], h => absurd rfl h.1
  | object ((key, value) :: rest), h =>
    ⟨List.cons_ne_nil _ _, rowsAreTemplates_mapRows keeps ((key, value) :: rest) h.2⟩

theorem areTemplates_mapItems {f : String → String}
    (keeps : ∀ text, Verbatim text → Verbatim (f text)) : (items : List Json) →
      AreTemplates items → AreTemplates (mapItems f items)
  | [], _ => trivial
  | item :: rest, h =>
    ⟨isTemplate_mapTexts keeps item h.1, areTemplates_mapItems keeps rest h.2⟩

theorem rowsAreTemplates_mapRows {f : String → String}
    (keeps : ∀ text, Verbatim text → Verbatim (f text)) : (rows : List (String × Json)) →
      RowsAreTemplates rows → RowsAreTemplates (mapRows f rows)
  | [], _ => trivial
  | (_, value) :: rest, h =>
    ⟨h.1, isTemplate_mapTexts keeps value h.2.1, rowsAreTemplates_mapRows keeps rest h.2.2⟩

end

theorem map_fst_mapRows (f : String → String) (rows : List (String × Json)) :
    (mapRows f rows).map Prod.fst = rows.map Prod.fst := by
  induction rows with
  | nil => rfl
  | cons row rest ih => exact congrArg (row.1 :: ·) ih

theorem get?_mapRows (f : String → String) (rows : List (String × Json)) (key : String) :
    Table.get? (mapRows f rows) key = (Table.get? rows key).map (mapTexts f) := by
  induction rows with
  | nil => rfl
  | cons row rest ih =>
    obtain ⟨own, value⟩ := row
    rw [mapRows, Table.get?, Table.get?, ih]
    split <;> rfl

theorem get?_asRead_mapTexts (f : String → String) {rows : List (String × Json)}
    (nodup : (rows.map Prod.fst).Nodup) (key : String) :
    (asRead (mapTexts f (object rows))).get? key =
      (Table.get? rows key).map fun value => asRead (mapTexts f value) := by
  have hnodup : ((mapRows f rows).map Prod.fst).Nodup := (map_fst_mapRows f rows).symm ▸ nodup
  rw [mapTexts, get?_asRead hnodup, get?_mapRows, Option.map_map]
  rfl

end Json

/-! ## The template of a schema's index -/

namespace Index

open Json

/-- The text with each placeholder of the given values replaced, one after the other. -/
def fill (values : List (String × String)) (text : String) : String :=
  values.foldl (fun text row => replacePiece text (placeholder row.1) row.2) text

theorem toList_placeholder (name : String) :
    (placeholder name).toList = '{' :: (name.toList ++ ['}']) := by
  simp [placeholder]

/-- The values that placeholders are replaced by, if the placeholders open and close and the values
    are written as they are. -/
def Fills (values : List (String × String)) : Prop :=
  ∀ row ∈ values, Mark (placeholder row.1) ∧ Verbatim row.2

/-- A template is filled by filling the texts that it holds. -/
theorem toList_fill {values : List (String × String)} (fills : Fills values) {text : String}
    {width level : Nat} {template : Json} (h : text.toList = layout width level template)
    (isTemplate : IsTemplate template) :
    (fill values text).toList = layout width level (template.mapTexts (fill values)) := by
  induction values generalizing text template with
  | nil =>
    have hid : fill [] = id := rfl
    rw [hid, mapTexts_id]
    exact h
  | cons row rest ih =>
    obtain ⟨⟨mark, value⟩, hrest⟩ := List.forall_mem_cons.1 fills
    have hfirst : (replacePiece text (placeholder row.1) row.2).toList = layout width level
        (template.mapTexts fun text => replacePiece text (placeholder row.1) row.2) := by
      have hlayout := replaceFrom_layout mark value width level template isTemplate []
      rw [List.append_nil, ← h] at hlayout
      simpa [replacePiece, replaceFrom] using hlayout
    have hafter := ih hrest hfirst
      (isTemplate_mapTexts (fun text h => h.replacePiece value _) template isTemplate)
    rw [mapTexts_mapTexts] at hafter
    exact hafter

/-- A character that no placeholder holds keeps apart what stands on its two sides. -/
theorem fill_cut {c : Char} {values : List (String × String)}
    (h : ∀ row ∈ values, c ∉ (placeholder row.1).toList) (first second : String) :
    fill values (first ++ String.singleton c ++ second) =
      fill values first ++ String.singleton c ++ fill values second := by
  induction values generalizing first second with
  | nil => rfl
  | cons row rest ih =>
    obtain ⟨hrow, hrest⟩ := List.forall_mem_cons.1 h
    have hstep : replacePiece (first ++ String.singleton c ++ second) (placeholder row.1) row.2 =
        replacePiece first (placeholder row.1) row.2 ++ String.singleton c ++
          replacePiece second (placeholder row.1) row.2 := by
      apply String.toList_injective
      have hcut := replaceFrom_append_cons (by simp [toList_placeholder]) hrow row.2.toList
        second.toList (Nat.zero_le first.toList.length)
      simpa [replacePiece] using hcut
    unfold fill at ih ⊢
    rw [List.foldl_cons, hstep, ih hrest, List.foldl_cons, List.foldl_cons]

theorem replacePiece_of_not_mem {text : String} (h : '{' ∉ text.toList) (name value : String) :
    replacePiece text (placeholder name) value = text := by
  apply String.toList_injective
  rw [replacePiece, String.toList_ofList, toList_placeholder, replaceFrom_of_not_mem h]

/-- A text without an opening brace has no placeholders. -/
theorem fill_of_not_mem {text : String} (h : '{' ∉ text.toList)
    (values : List (String × String)) : fill values text = text := by
  induction values with
  | nil => rfl
  | cons row rest ih =>
    unfold fill at ih ⊢
    rw [List.foldl_cons, replacePiece_of_not_mem h, ih]

theorem replacePiece_placeholder (name value : String) :
    replacePiece (placeholder name) (placeholder name) value = value := by
  apply String.toList_injective
  have hself := replaceFrom_self (c := '{') (name.toList ++ ['}']) value.toList []
  simpa [replacePiece, toList_placeholder, replaceFrom] using hself

theorem replacePiece_of_ne {name other : String} (h : other ≠ name)
    (names : '{' ∉ name.toList ∧ '}' ∉ name.toList) (value : String) :
    replacePiece (placeholder name) (placeholder other) value = placeholder name := by
  apply String.toList_injective
  rw [replacePiece, String.toList_ofList, toList_placeholder, toList_placeholder]
  have hstart : ¬ '{' :: (other.toList ++ ['}']) <+: '{' :: (name.toList ++ ['}']) := by
    rw [List.cons_prefix_cons]
    rintro ⟨-, tail, htail⟩
    rcases List.eq_nil_or_concat tail with rfl | ⟨front, c, rfl⟩
    · rw [List.append_nil] at htail
      exact h (String.toList_injective (List.append_cancel_right htail))
    · rw [List.concat_eq_append, ← List.append_assoc] at htail
      have hname : other.toList ++ ['}'] ++ front = name.toList :=
        (List.append_inj' htail rfl).1
      exact names.2 (hname ▸ by simp)
  rw [replaceFrom_of_no_start hstart, replaceFrom_of_not_mem (by simp [names.1])]

/-- A placeholder is filled with its first value, if this holds no further placeholders. -/
theorem fill_placeholder {values : List (String × String)} {name value : String}
    (h : Table.get? values name = some value) (plain : '{' ∉ value.toList)
    (names : '{' ∉ name.toList ∧ '}' ∉ name.toList) :
    fill values (placeholder name) = value := by
  induction values with
  | nil => simp at h
  | cons row rest ih =>
    obtain ⟨other, otherValue⟩ := row
    rw [Table.get?] at h
    split at h
    · next hname =>
      obtain rfl := Option.some.inj h
      subst hname
      exact (congrArg (fill rest) (replacePiece_placeholder other otherValue)).trans
        (fill_of_not_mem plain rest)
    · next hne =>
      exact (congrArg (fill rest) (replacePiece_of_ne hne names otherValue)).trans (ih h)

/-- The values of the placeholders of a schema's index. -/
def indexValues (standard : Standard) (name dir : String) : List (String × String) :=
  [("name", name), ("relativeSchemaPath", dir), ("JsonSchemas", schemasDir),
    ("standard", standard.name), ("v", protocol)]

/-- The rows that tell where the document of a schema lies, with their placeholders. -/
def locationRows : List (String × Json) :=
  [("Language", .string "en"),
    ("PublicationUri", .string
      "http://redfish.dmtf.org/schemas/\x7bstandard\x7d/\x7bv\x7d/\x7bname\x7d.json"),
    ("Uri", .string "/\x7brelativeSchemaPath\x7d/\x7bname\x7d.json")]

/-- The rows of the index of a schema, with their placeholders. -/
def indexRows : List (String × Json) :=
  [("@odata.context",
      .string "/\x7bstandard\x7d/\x7bv\x7d/$metadata#JsonSchemaFile.JsonSchemaFile"),
    ("@odata.id", .string "/\x7bstandard\x7d/\x7bv\x7d/\x7bJsonSchemas\x7d/\x7bname\x7d"),
    ("@odata.type", .string "#JsonSchemaFile.v1_0_2.JsonSchemaFile"),
    ("Name", .string "\x7bname\x7d Schema File"),
    ("Schema", .string "#\x7bname\x7d.\x7bname\x7d"),
    ("Description", .string "\x7bname\x7d Schema File Location"),
    ("Id", .string "\x7bname\x7d"),
    ("Languages", .array [.string "en"]),
    ("Languages@odata.count", .ofNat 1),
    ("Location", .array [.object locationRows]),
    ("Location@odata.count", .ofNat 1)]

theorem toList_templateLines :
    (String.intercalate "\n" templateLines).toList = layout 4 0 (object indexRows) := by
  rw [String.toList_intercalate]
  simp only [indexRows, locationRows, layout, layoutRows, layoutItems, quote, String.toList_ofList]
  decide +kernel

theorem isTemplate_indexRows : IsTemplate (object indexRows) := by
  simp only [indexRows, locationRows, IsTemplate, RowsAreTemplates, AreTemplates, Verbatim,
    Json.ofNat, ne_eq, List.cons_ne_nil, not_false_eq_true, true_and, quote, String.toList_ofList]
  and_intros <;> decide +kernel

/-- A text that can stand for a placeholder: it is written as it is, and nothing in it opens a
    placeholder. -/
structure Plain (text : String) : Prop where
  verbatim : Verbatim text
  closed : '{' ∉ text.toList

theorem Plain.append {first second : String} (hfirst : Plain first) (hsecond : Plain second) :
    Plain (first ++ second) := by
  refine ⟨fun c hc => ?_, ?_⟩
  · rw [String.toList_append] at hc
    exact (List.mem_append.1 hc).elim (hfirst.verbatim c) (hsecond.verbatim c)
  · simp [hfirst.closed, hsecond.closed]

theorem plain_slash : Plain "/" :=
  ⟨by unfold Verbatim; decide, by decide⟩

theorem plain_schemasDir : Plain schemasDir :=
  ⟨by unfold Verbatim; decide, by decide⟩

theorem plain_protocol : Plain protocol :=
  ⟨by unfold Verbatim; decide, by decide⟩

theorem plain_standard (standard : Standard) : Plain standard.name := by
  cases standard with
  | redfish => exact ⟨by unfold Verbatim; decide, by decide⟩
  | swordfish => exact ⟨by unfold Verbatim; decide, by decide⟩

theorem mark_placeholder {name : String} (nonempty : name.toList ≠ [])
    (plain : ∀ c ∈ ['"', '\n'], c ∉ name.toList) : Mark (placeholder name) := by
  obtain ⟨c, rest, hname⟩ := List.exists_cons_of_ne_nil nonempty
  have hquote := plain '"' (by simp)
  have hline := plain '\n' (by simp)
  refine ⟨⟨c, rest ++ ['}'], by rw [toList_placeholder, hname, List.cons_append]⟩, ?_, ?_⟩
  · simp [toList_placeholder, hquote]
  · simp [toList_placeholder, hline]

/-- No placeholder of a schema's index holds a character that stands around placeholders. -/
theorem plain_indexValues (standard : Standard) (name dir : String) :
    ∀ row ∈ indexValues standard name dir, row.1.toList ≠ [] ∧
      ∀ c ∈ ['{', '}', '"', '\n', '/', '.'], c ∉ row.1.toList := by
  have names : ∀ key ∈ ["name", "relativeSchemaPath", "JsonSchemas", "standard", "v"],
      key.toList ≠ [] ∧ ∀ c ∈ ['{', '}', '"', '\n', '/', '.'], c ∉ key.toList := by
    decide
  intro row hrow
  exact names row.1 (List.mem_map_of_mem (f := Prod.fst) hrow)

variable {standard : Standard} {name dir : String}

theorem fills_indexValues (hname : Plain name) (hdir : Plain dir) :
    Fills (indexValues standard name dir) := by
  intro row hrow
  obtain ⟨nonempty, plain⟩ := plain_indexValues standard name dir row hrow
  refine ⟨mark_placeholder nonempty fun c hc => plain c ?_, ?_⟩
  · exact List.subset_def.1 (by decide) hc
  · simp only [indexValues, List.mem_cons, List.not_mem_nil, or_false] at hrow
    rcases hrow with rfl | rfl | rfl | rfl | rfl
    · exact hname.verbatim
    · exact hdir.verbatim
    · exact plain_schemasDir.verbatim
    · exact (plain_standard standard).verbatim
    · exact plain_protocol.verbatim

/-- The index of a schema reads as its template with the texts filled in. -/
theorem parse_ofSchema (hname : Plain name) (hdir : Plain dir) :
    Json.parse (ofSchema standard name dir) =
      some (asRead ((object indexRows).mapTexts (fill (indexValues standard name dir)))) := by
  refine parse_layout
    (toList_fill (fills_indexValues hname hdir) toList_templateLines isTemplate_indexRows) ?_
  simp [indexRows, locationRows, mapTexts, mapRows, mapItems, Readable, ReadableRows, ReadableItems,
    nestingLimit, Json.ofNat]

theorem cut_indexValues {c : Char} (h : c ∈ ['/', '.']) (first second : String) :
    fill (indexValues standard name dir) (first ++ String.singleton c ++ second) =
      fill (indexValues standard name dir) first ++ String.singleton c ++
        fill (indexValues standard name dir) second := by
  refine fill_cut (fun row hrow => ?_) first second
  have hkey := (plain_indexValues standard name dir row hrow).2
  rw [toList_placeholder]
  rcases List.mem_pair.1 h with rfl | rfl
  · simp [hkey '/' (by simp)]
  · simp [hkey '.' (by simp)]

/-- The place that the index of a schema names as its own. -/
theorem fill_directory (hname : Plain name) : fill (indexValues standard name dir)
      "/\x7bstandard\x7d/\x7bv\x7d/\x7bJsonSchemas\x7d/\x7bname\x7d" =
    "/" ++ (standard.name ++ "/" ++ protocol ++ "/" ++ schemasDir ++ "/" ++ name) := by
  have htext : "/\x7bstandard\x7d/\x7bv\x7d/\x7bJsonSchemas\x7d/\x7bname\x7d" =
      "" ++ String.singleton '/' ++ placeholder "standard" ++ String.singleton '/' ++
        placeholder "v" ++ String.singleton '/' ++ placeholder "JsonSchemas" ++
        String.singleton '/' ++ placeholder "name" := by
    decide
  have hslash : String.singleton '/' = "/" := by decide
  have hstandard : fill (indexValues standard name dir) (placeholder "standard") = standard.name :=
    fill_placeholder (by simp [indexValues, Table.get?]) (plain_standard standard).closed (by decide)
  have hprotocol : fill (indexValues standard name dir) (placeholder "v") = protocol :=
    fill_placeholder (by simp [indexValues, Table.get?]) plain_protocol.closed (by decide)
  have hschemas : fill (indexValues standard name dir) (placeholder "JsonSchemas") = schemasDir :=
    fill_placeholder (by simp [indexValues, Table.get?]) plain_schemasDir.closed (by decide)
  have hown : fill (indexValues standard name dir) (placeholder "name") = name :=
    fill_placeholder (by simp [indexValues, Table.get?]) hname.closed (by decide)
  have hempty : fill (indexValues standard name dir) "" = "" := fill_of_not_mem (by simp) _
  rw [htext]
  simp only [cut_indexValues (show '/' ∈ ['/', '.'] by decide), hstandard, hprotocol, hschemas, hown,
    hempty]
  simp only [hslash, String.empty_append, String.append_assoc]

/-- The place of the document that the index of a schema names. -/
theorem fill_uri (hname : Plain name) (hdir : Plain dir) :
    fill (indexValues standard name dir)
      "/\x7brelativeSchemaPath\x7d/\x7bname\x7d.json" = "/" ++ (dir ++ "/" ++ name ++ ".json") := by
  have htext : "/\x7brelativeSchemaPath\x7d/\x7bname\x7d.json" =
      "" ++ String.singleton '/' ++ placeholder "relativeSchemaPath" ++ String.singleton '/' ++
        placeholder "name" ++ String.singleton '.' ++ "json" := by
    decide
  have hslash : String.singleton '/' = "/" := by decide
  have hdot : String.singleton '.' ++ "json" = ".json" := by decide
  have hpath : fill (indexValues standard name dir) (placeholder "relativeSchemaPath") = dir :=
    fill_placeholder (by simp [indexValues, Table.get?]) hdir.closed (by decide)
  have hown : fill (indexValues standard name dir) (placeholder "name") = name :=
    fill_placeholder (by simp [indexValues, Table.get?]) hname.closed (by decide)
  have hempty : fill (indexValues standard name dir) "" = "" := fill_of_not_mem (by simp) _
  have hjson : fill (indexValues standard name dir) "json" = "json" := fill_of_not_mem (by decide) _
  rw [htext]
  simp only [cut_indexValues (show '/' ∈ ['/', '.'] by decide),
    cut_indexValues (show '.' ∈ ['/', '.'] by decide), hpath, hown, hempty, hjson]
  simp only [hslash, String.empty_append, String.append_assoc, hdot]

/-! ## What the index of a schema says -/

/-- The index of a schema reads as a value that names its own place and that of the schema's
    document. -/
theorem reads_ofSchema (hname : Plain name) (hdir : Plain dir) :
    ∃ index location, Json.parse (ofSchema standard name dir) = some index ∧
      index.text? "@odata.id" = some
        ("/" ++ (standard.name ++ "/" ++ protocol ++ "/" ++ schemasDir ++ "/" ++ name)) ∧
      index.items? "Location" = some [location] ∧
      location.text? "Uri" = some ("/" ++ (dir ++ "/" ++ name ++ ".json")) := by
  let filled := mapTexts (fill (indexValues standard name dir))
  have hown : Table.get? indexRows "@odata.id" = some
      (.string "/\x7bstandard\x7d/\x7bv\x7d/\x7bJsonSchemas\x7d/\x7bname\x7d") := rfl
  have hlocation : Table.get? indexRows "Location" = some (.array [.object locationRows]) := rfl
  have huri : Table.get? locationRows "Uri" = some
      (.string "/\x7brelativeSchemaPath\x7d/\x7bname\x7d.json") := rfl
  refine ⟨asRead (filled (object indexRows)), asRead (filled (object locationRows)),
    parse_ofSchema hname hdir, ?_, ?_, ?_⟩
  · rw [text?, get?_asRead_mapTexts _ (by decide), hown]
    exact congrArg some (fill_directory hname)
  · rw [items?, get?_asRead_mapTexts _ (by decide), hlocation]
    rfl
  · rw [text?, get?_asRead_mapTexts _ (by decide), huri]
    exact congrArg some (fill_uri hname hdir)

end Index

end ResourceModel

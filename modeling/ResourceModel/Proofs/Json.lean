import Mathlib.Data.Nat.Digits.Defs
import ResourceModel.Json.Parser
import ResourceModel.Json.Printer
import ResourceModel.Proofs.Table

set_option autoImplicit false

/-! # What is written is read back

The text of a value over several lines, with any width of indentation, reads as that value, with the
rows of its objects in the order of their keys. The reader takes the text off the front of what it is
given, if what follows cannot go on with a number. -/

namespace ResourceModel.Json

/-! ## Texts -/

theorem hexQuad?_of_control : ∀ n < 32,
    hexQuad? '0' '0' (hexDigit (n / 16)) (hexDigit (n % 16)) = some n := by
  decide

/-- A character inside quotes is read as it was written. -/
theorem quoted?_escapeChar (read : List Char) (c : Char) (rest : List Char) :
    quoted? read (escapeChar c ++ rest) = quoted? (c :: read) rest := by
  have named : ∀ n, c.toNat = n → Char.ofNat n = c := by
    rintro n rfl
    exact Char.ofNat_toNat c
  unfold escapeChar
  split
  · simp [quoted?, escaped?]
  · simp [quoted?, escaped?]
  · simp [quoted?, escaped?]
  · simp [quoted?, escaped?]
  · simp [quoted?, escaped?]
  · next hquote hbackslash _ _ _ =>
    split
    · next h =>
      obtain rfl := named 8 h
      rfl
    · split
      · next h =>
        obtain rfl := named 12 h
        rfl
      · split
        · next hlow =>
          have hhigh : ¬ (0xDC00 ≤ c.toNat ∧ c.toNat < 0xE000) := by omega
          have hhalf : ¬ (0xD800 ≤ c.toNat ∧ c.toNat < 0xDC00) := by omega
          simp only [List.cons_append, List.nil_append, quoted?, hexQuad?_of_control c.toNat hlow,
            if_neg hhigh, if_neg hhalf, named c.toNat rfl]
        · next hlow =>
          rw [List.singleton_append, quoted?]
          · rw [if_neg (not_or.2 ⟨hlow, hbackslash⟩)]
          · exact hquote
          · intro _ _ _ _ _ h
            exact absurd h hbackslash
          · intro _ _ h
            exact absurd h hbackslash

theorem quoted?_escaped (read text rest : List Char) :
    quoted? read (text.flatMap escapeChar ++ '"' :: rest) =
      some (String.ofList (read.reverse ++ text), rest) := by
  induction text generalizing read with
  | nil => simp [quoted?]
  | cons c text ih =>
    rw [List.flatMap_cons, List.append_assoc, quoted?_escapeChar, ih]
    simp

theorem quoted?_quote (text : String) (rest : List Char) :
    quoted? [] (text.toList.flatMap escapeChar ++ '"' :: rest) = some (text, rest) := by
  rw [quoted?_escaped]
  simp

/-! ## Numbers -/

theorem digit?_of_isDigit {c : Char} (h : c.isDigit = true) :
    digit? c = some (c.toNat - '0'.toNat) := by
  unfold Char.isDigit at h
  unfold digit?
  simp only [Bool.and_eq_true, decide_eq_true_eq] at h
  exact if_pos h

theorem le_ofDigitChars (digits : List Char) (n : Nat) : n ≤ Nat.ofDigitChars 10 digits n := by
  induction digits generalizing n with
  | nil => exact Nat.le_refl n
  | cons c digits ih =>
    rw [Nat.ofDigitChars_cons]
    exact Nat.le_trans (by omega) (ih _)

/-- The digits of a number that fits are read as this number. -/
theorem whole_digits {digits rest : List Char} (n : Nat)
    (isDigits : ∀ c ∈ digits, c.isDigit = true) (stops : startsWithDigit rest = false)
    (fits : Nat.ofDigitChars 10 digits n < 2 ^ 64) :
    Digits.whole ⟨n, 0⟩ false (digits ++ rest) = (⟨Nat.ofDigitChars 10 digits n, 0⟩, rest) := by
  induction digits generalizing n with
  | nil =>
    cases rest with
    | nil => rfl
    | cons c rest =>
      have hnone : digit? c = none := by simpa [startsWithDigit] using stops
      simp [Digits.whole, hnone]
  | cons c digits ih =>
    obtain ⟨hc, hdigits⟩ := List.forall_mem_cons.1 isDigits
    rw [Nat.ofDigitChars_cons, Nat.mul_comm] at fits
    have hle := le_ofDigitChars digits (n * 10 + (c.toNat - '0'.toNat))
    have hfull : Digits.isFull ⟨n, 0⟩ (c.toNat - '0'.toNat) = false := by
      simp only [Digits.isFull, decide_eq_false_iff_not, Nat.not_le]
      exact Nat.lt_of_le_of_lt hle fits
    rw [List.cons_append]
    simp only [Digits.whole, digit?_of_isDigit hc, hfull, Bool.or_self, Bool.false_eq_true,
      if_false]
    rw [ih _ hdigits fits, Nat.ofDigitChars_cons, Nat.mul_comm]

theorem head?_toDigits {n : Nat} (positive : 0 < n) : (Nat.toDigits 10 n).head? ≠ some '0' := by
  induction n using Nat.strongRecOn with
  | ind n ih =>
    by_cases hsmall : n < 10
    · rw [Nat.toDigits_of_lt_base hsmall]
      have hdigit : ∀ d < 10, 0 < d → d.digitChar ≠ '0' := by decide
      simpa using hdigit n hsmall positive
    · have hlarge := Nat.not_lt.1 hsmall
      have hhead := ih (n / 10) (by omega) (by omega)
      rw [Nat.toDigits_of_base_le (by decide) hlarge]
      obtain ⟨c, digits, hdigits⟩ := List.exists_cons_of_ne_nil
        (Nat.toDigits_ne_nil : Nat.toDigits 10 (n / 10) ≠ [])
      rw [hdigits] at hhead ⊢
      exact hhead

/-- Whether what follows a value cannot be part of it: nothing follows, or a gap or the end of what
    stands around the value. -/
def Closes (rest : List Char) : Prop :=
  ∀ c ∈ rest.head?, isGap c = true ∨ c = ',' ∨ c = ']' ∨ c = '\x7d'

theorem Closes.stops {rest : List Char} (h : Closes rest) :
    startsWithDigit rest = false ∧ rest.head? ≠ some '.' ∧ exponent? rest = some (none, rest) := by
  cases rest with
  | nil => exact ⟨rfl, by simp, rfl⟩
  | cons c rest =>
    have hc := h c rfl
    simp only [isGap, Bool.or_eq_true, decide_eq_true_eq] at hc
    have hcases : c = ' ' ∨ c = '\n' ∨ c = '\t' ∨ c = '\r' ∨ c = ',' ∨ c = ']' ∨ c = '\x7d' := by
      tauto
    rcases hcases with rfl | rfl | rfl | rfl | rfl | rfl | rfl <;>
      exact ⟨rfl, by simp, rfl⟩

theorem integer_of_lt {n : Nat} (fits : n < 2 ^ 64) :
    integer false ⟨n, 0⟩ = some (.integer n) := by
  have hfits : Number.fits n = true := by
    simp only [Number.fits, Bool.and_eq_true, decide_eq_true_eq]
    have hpow : Nat.pow 2 64 = 2 ^ 64 := rfl
    omega
  simp [integer, hfits]

theorem toList_natText (n : Nat) : (natText n).toList = Nat.toDigits 10 n :=
  String.toList_ofList

theorem isDigit_toDigits (n : Nat) : ∀ c ∈ Nat.toDigits 10 n, c.isDigit = true := fun _ hc =>
  Nat.isDigit_of_mem_toDigits (by decide) (by decide) hc

theorem toDigits_eq_cons (n : Nat) :
    ∃ c digits, Nat.toDigits 10 n = c :: digits ∧ c.isDigit = true := by
  obtain ⟨c, digits, hdigits⟩ := List.exists_cons_of_ne_nil
    (Nat.toDigits_ne_nil : Nat.toDigits 10 n ≠ [])
  exact ⟨c, digits, hdigits, isDigit_toDigits n c (hdigits ▸ List.mem_cons_self)⟩

theorem unsigned?_toDigits {n : Nat} (fits : n < 2 ^ 64) {rest : List Char}
    (closes : Closes rest) :
    unsigned? false (Nat.toDigits 10 n ++ rest) = some (.integer n, rest) := by
  obtain ⟨stops, point, exponent⟩ := closes.stops
  have value : Nat.ofDigitChars 10 (Nat.toDigits 10 n) 0 = n :=
    Nat.ofDigitChars_toDigits (by decide) (by decide)
  have whole := whole_digits 0 (isDigit_toDigits n) stops (by rw [value]; exact fits)
  rw [value] at whole
  obtain ⟨c, digits, hdigits, hc⟩ := toDigits_eq_cons n
  have hstart : startsWithDigit (Nat.toDigits 10 n ++ rest) = true := by
    rw [hdigits]
    simp [startsWithDigit, digit?_of_isDigit hc]
  unfold unsigned?
  simp only [hstart, whole, Bool.not_true, Bool.false_or]
  refine (if_neg ?_).trans ?_
  · -- the only number that is written with a leading zero is zero itself
    rcases Nat.eq_zero_or_pos n with rfl | positive
    · exact Bool.eq_false_iff.1 stops
    · have hhead := head?_toDigits positive
      rw [hdigits] at hhead ⊢
      simp only [List.head?_cons, ne_eq, Option.some.injEq] at hhead
      rw [List.cons_append]
      split
      · next h => exact absurd (List.cons.inj h).1 hhead
      · exact Bool.false_ne_true
  · split
    · simp at point
    · simp [exponent, integer_of_lt fits]

theorem number?_natText {n : Nat} (fits : n < 2 ^ 64) {rest : List Char} (closes : Closes rest) :
    number? ((natText n).toList ++ rest) = some (.integer n, rest) := by
  have hunsigned := unsigned?_toDigits fits closes
  obtain ⟨c, digits, hdigits, hc⟩ := toDigits_eq_cons n
  have hminus : c ≠ '-' := by
    rintro rfl
    simp at hc
  rw [toList_natText]
  unfold number?
  rw [hdigits, List.cons_append] at hunsigned ⊢
  split
  · next h => exact absurd (List.cons.inj h).1 hminus
  · exact hunsigned

/-! ## Layouts -/

/-- The start of a line at a level, of the given width. -/
def line (width level : Nat) : List Char :=
  '\n' :: List.replicate (width * level) ' '

mutual

/-- The text of a value over several lines, inside `level` enclosing values, with `width` blanks for
    each of them. -/
def layout (width level : Nat) : Json → List Char
  | array [] => ['[', ']']
  | object [] => ['\x7b', '\x7d']
  | array (item :: rest) =>
    '[' :: (line width (level + 1) ++ layoutItems width (level + 1) (item :: rest) ++
      (line width level ++ [']']))
  | object (row :: rest) =>
    '\x7b' :: (line width (level + 1) ++ layoutRows width (level + 1) (row :: rest) ++
      (line width level ++ ['\x7d']))
  | null => ['n', 'u', 'l', 'l']
  | bool true => ['t', 'r', 'u', 'e']
  | bool false => ['f', 'a', 'l', 's', 'e']
  | number n => n.text.toList
  | string s => (quote s).toList

/-- The texts of items, each after the first one on a line of its own. -/
def layoutItems (width level : Nat) : List Json → List Char
  | [] => []
  | [item] => layout width level item
  | item :: next :: rest =>
    layout width level item ++ ',' :: (line width level ++ layoutItems width level (next :: rest))

/-- The texts of rows, each after the first one on a line of its own. -/
def layoutRows (width level : Nat) : List (String × Json) → List Char
  | [] => []
  | [(key, value)] => (quote key).toList ++ ':' :: ' ' :: layout width level value
  | (key, value) :: next :: rest =>
    (quote key).toList ++ ':' :: ' ' :: (layout width level value ++
      ',' :: (line width level ++ layoutRows width level (next :: rest)))

end

mutual

theorem toList_prettyAt (level : Nat) : (value : Json) →
    (prettyAt level value).toList = layout 2 level value
  | array [] => by simp [prettyAt, layout]
  | object [] => by simp [prettyAt, layout]
  | array (item :: rest) => by
    simp [prettyAt, layout, separated, toList_prettyItems, indent, line]
  | object (row :: rest) => by
    simp [prettyAt, layout, separated, toList_prettyRows, indent, line]
  | null => by simp [prettyAt, layout]
  | bool true => by simp [prettyAt, layout]
  | bool false => by simp [prettyAt, layout]
  | number n => by simp [prettyAt, layout]
  | string s => by simp [prettyAt, layout]

theorem toList_prettyItems (level : Nat) : (items : List Json) → items ≠ [] →
    (String.intercalate "," (prettyItems level items)).toList =
      line 2 level ++ layoutItems 2 level items
  | [], h => absurd rfl h
  | [item], _ => by
    simp [prettyItems, layoutItems, indent, line, toList_prettyAt level item]
  | item :: next :: rest, _ => by
    have hrest := toList_prettyItems level (next :: rest) (by simp)
    simp only [prettyItems] at hrest ⊢
    rw [String.intercalate_cons_cons, String.toList_append, String.toList_append, hrest]
    simp [layoutItems, indent, line, toList_prettyAt level item]

theorem toList_prettyRows (level : Nat) : (rows : List (String × Json)) → rows ≠ [] →
    (String.intercalate "," (prettyRows level rows)).toList =
      line 2 level ++ layoutRows 2 level rows
  | [], h => absurd rfl h
  | [(key, value)], _ => by
    simp [prettyRows, layoutRows, indent, line, toList_prettyAt level value]
  | (key, value) :: next :: rest, _ => by
    have hrest := toList_prettyRows level (next :: rest) (by simp)
    obtain ⟨nextKey, nextValue⟩ := next
    simp only [prettyRows] at hrest ⊢
    rw [String.intercalate_cons_cons, String.toList_append, String.toList_append, hrest]
    simp [layoutRows, indent, line, toList_prettyAt level value]

end

/-! ## Reading a layout -/

mutual

/-- Whether the reader takes a value inside `depth` arrays and objects back exactly: its numbers are
    natural ones that fit into 64 bits, and it does not nest too deep. -/
def Readable (depth : Nat) : Json → Prop
  | null => True
  | bool _ => True
  | number (.integer (.ofNat n)) => n < 2 ^ 64
  | number _ => False
  | string _ => True
  | array items => depth < nestingLimit ∧ ReadableItems (depth + 1) items
  | object rows => depth < nestingLimit ∧ ReadableRows (depth + 1) rows

/-- Whether the reader takes items back exactly. -/
def ReadableItems (depth : Nat) : List Json → Prop
  | [] => True
  | item :: rest => Readable depth item ∧ ReadableItems depth rest

/-- Whether the reader takes rows back exactly. -/
def ReadableRows (depth : Nat) : List (String × Json) → Prop
  | [] => True
  | (_, value) :: rest => Readable depth value ∧ ReadableRows depth rest

end

mutual

/-- A value as it is read: the rows of objects stand in the order of their keys. -/
def asRead : Json → Json
  | array items => array (itemsAsRead items)
  | object rows => object (Table.ofRows (rowsAsRead rows))
  | null => null
  | bool b => bool b
  | number n => number n
  | string s => string s

/-- Items as they are read. -/
def itemsAsRead : List Json → List Json
  | [] => []
  | item :: rest => asRead item :: itemsAsRead rest

/-- Rows as they are read, in the order in which they are written. -/
def rowsAsRead : List (String × Json) → List (String × Json)
  | [] => []
  | (key, value) :: rest => (key, asRead value) :: rowsAsRead rest

end

theorem skipGap_of_head {c : Char} (h : isGap c = false) (rest : List Char) :
    skipGap (c :: rest) = c :: rest := by
  simp [skipGap, h]

theorem skipGap_line (width level : Nat) (rest : List Char) :
    skipGap (line width level ++ rest) = skipGap rest := by
  have blanks : ∀ count : Nat, (List.replicate count ' ' ++ rest).dropWhile isGap =
      rest.dropWhile isGap := by
    intro count
    induction count with
    | zero => rfl
    | succ count ih =>
      rw [List.replicate_succ, List.cons_append, List.dropWhile_cons_of_pos (by decide), ih]
  unfold skipGap line
  rw [List.cons_append, List.dropWhile_cons_of_pos (by decide), blanks]

/-- The first character of a layout is neither a gap nor a closing bracket. -/
theorem layout_eq_cons (width level : Nat) {depth : Nat} {value : Json}
    (readable : Readable depth value) :
    ∃ c rest, layout width level value = c :: rest ∧ isGap c = false ∧ c ≠ ']' := by
  cases value with
  | null => exact ⟨_, _, rfl, by decide, by decide⟩
  | bool b => cases b <;> exact ⟨_, _, rfl, by decide, by decide⟩
  | string s => exact ⟨'"', s.toList.flatMap escapeChar ++ ['"'], by simp [layout, quote], by decide,
      by decide⟩
  | array items => cases items <;> exact ⟨_, _, rfl, by decide, by decide⟩
  | object rows => cases rows <;> exact ⟨_, _, rfl, by decide, by decide⟩
  | number n =>
    cases n with
    | float x => exact absurd readable id
    | integer n =>
      cases n with
      | negSucc n => exact absurd readable id
      | ofNat n =>
        obtain ⟨c, digits, hdigits, hc⟩ := toDigits_eq_cons n
        refine ⟨c, digits, ?_, ?_, ?_⟩
        · exact (toList_natText n).trans hdigits
        · refine Bool.eq_false_iff.2 fun hgap => ?_
          simp only [isGap, Bool.or_eq_true, decide_eq_true_eq] at hgap
          rcases hgap with ((rfl | rfl) | rfl) | rfl <;> simp at hc
        · rintro rfl
          simp at hc

theorem closes_comma (rest : List Char) : Closes (',' :: rest) := by
  rintro c hc
  obtain rfl := Option.some.inj hc
  simp

theorem closes_line (width level : Nat) (rest : List Char) : Closes (line width level ++ rest) := by
  rintro c hc
  obtain rfl := Option.some.inj hc
  exact Or.inl (by decide)

theorem readValue_array {fuel depth : Nat} {c : Char} {text rest : List Char}
    (shallow : depth < nestingLimit) (starts : skipGap text = c :: rest) (open' : c ≠ ']') :
    readValue (fuel + 1) depth ('[' :: text) =
      (readItems fuel (depth + 1) (c :: rest)).map fun read => (array read.1, read.2) := by
  unfold readValue
  simp only [shallow, if_true, starts]
  split
  · next h => exact absurd (List.cons.inj h).1 open'
  · rfl

theorem readValue_object {fuel depth : Nat} {text rest : List Char}
    (shallow : depth < nestingLimit) (starts : skipGap text = '"' :: rest) :
    readValue (fuel + 1) depth ('\x7b' :: text) =
      (readRows fuel (depth + 1) ('"' :: rest)).map fun read =>
        (object (Table.ofRows read.1), read.2) := by
  unfold readValue
  simp only [shallow, if_true, starts]
  rfl

theorem readValue_number {fuel depth n : Nat} (fits : n < 2 ^ 64) {rest : List Char}
    (closes : Closes rest) :
    readValue (fuel + 1) depth ((natText n).toList ++ rest) =
      some (number (.integer n), rest) := by
  have hread := number?_natText fits closes
  obtain ⟨c, digits, hdigits, hc⟩ := toDigits_eq_cons n
  rw [toList_natText, hdigits, List.cons_append] at hread ⊢
  unfold readValue
  split
  all_goals first
    | (next h => rw [(List.cons.inj h).1] at hc; simp at hc)
    | skip
  simp [hread]

theorem toList_quote (text : String) (rest : List Char) :
    (quote text).toList ++ rest = '"' :: (text.toList.flatMap escapeChar ++ '"' :: rest) := by
  simp [quote]

/-- Items start with their first one, and so with neither a gap nor a closing bracket. -/
theorem layoutItems_eq_cons (width level : Nat) {depth : Nat} {item : Json}
    (readable : Readable depth item) (rest : List Json) (tail : List Char) :
    ∃ c text, layoutItems width level (item :: rest) ++ tail = c :: text ∧ isGap c = false ∧
      c ≠ ']' := by
  obtain ⟨c, text, htext, hc⟩ := layout_eq_cons width level readable
  cases rest with
  | nil => exact ⟨c, text ++ tail, by simp [layoutItems, htext], hc⟩
  | cons next rest =>
    refine ⟨c, text ++ ',' :: (line width level ++ layoutItems width level (next :: rest) ++ tail),
      ?_, hc⟩
    simp [layoutItems, htext]

/-- Rows start with the quote of a key. -/
theorem layoutRows_eq_cons (width level : Nat) (row : String × Json) (rest : List (String × Json))
    (tail : List Char) : ∃ text, layoutRows width level (row :: rest) ++ tail = '"' :: text := by
  obtain ⟨key, value⟩ := row
  cases rest with
  | nil => exact ⟨_, by rw [layoutRows, toList_quote, List.cons_append]⟩
  | cons next rest => exact ⟨_, by rw [layoutRows, toList_quote, List.cons_append]⟩

theorem readItems_last {fuel depth : Nat} {text rest tail : List Char} {item : Json}
    (reads : readValue fuel depth text = some (item, rest)) (ends : skipGap rest = ']' :: tail) :
    readItems (fuel + 1) depth text = some ([item], tail) := by
  rw [readItems]
  simp only [reads, ends]

theorem readItems_next {fuel depth : Nat} {text rest tail : List Char} {item : Json}
    (reads : readValue fuel depth text = some (item, rest)) (goesOn : skipGap rest = ',' :: tail) :
    readItems (fuel + 1) depth text =
      (readItems fuel depth (skipGap tail)).map fun read => (item :: read.1, read.2) := by
  rw [readItems]
  simp only [reads, goesOn]

theorem readRows_last {fuel depth : Nat} {key : String} {text rest tail : List Char} {value : Json}
    (reads : readValue fuel depth (skipGap text) = some (value, rest))
    (ends : skipGap rest = '\x7d' :: tail) :
    readRows (fuel + 1) depth ((quote key).toList ++ ':' :: text) = some ([(key, value)], tail) := by
  rw [toList_quote, readRows]
  simp only [quoted?_quote, skipGap_of_head (show isGap ':' = false by decide), reads, ends]

theorem readRows_next {fuel depth : Nat} {key : String} {text rest tail : List Char} {value : Json}
    (reads : readValue fuel depth (skipGap text) = some (value, rest))
    (goesOn : skipGap rest = ',' :: tail) :
    readRows (fuel + 1) depth ((quote key).toList ++ ':' :: text) =
      (readRows fuel depth (skipGap tail)).map fun read => ((key, value) :: read.1, read.2) := by
  rw [toList_quote, readRows]
  simp only [quoted?_quote, skipGap_of_head (show isGap ':' = false by decide), reads, goesOn]

/-- Between a key and its value stands one blank. -/
theorem skipGap_value (width level : Nat) {depth : Nat} {value : Json}
    (readable : Readable depth value) (rest : List Char) :
    skipGap (' ' :: (layout width level value ++ rest)) = layout width level value ++ rest := by
  obtain ⟨c, text, htext, hgap, -⟩ := layout_eq_cons width level readable
  rw [htext, List.cons_append]
  exact (List.dropWhile_cons_of_pos (by decide)).trans (skipGap_of_head hgap _)

mutual

/-- The reader takes the layout of a value off the front of a text. -/
theorem readValue_layout (width level : Nat) : (value : Json) → ∀ (fuel : Nat) (rest : List Char)
    {depth : Nat}, Readable depth value → (layout width level value).length ≤ fuel →
      Closes rest →
      readValue (fuel + 1) depth (layout width level value ++ rest) = some (asRead value, rest)
  | null, _, _, _, _, _, _ => by simp [layout, readValue, asRead]
  | bool true, _, _, _, _, _, _ => by simp [layout, readValue, asRead]
  | bool false, _, _, _, _, _, _ => by simp [layout, readValue, asRead]
  | string s, _, _, _, _, _, _ => by
    rw [layout, toList_quote]
    simp [readValue, quoted?_quote, asRead]
  | number (.integer (.ofNat _)), _, _, _, readable, _, closes =>
    readValue_number readable closes
  | number (.integer (.negSucc _)), _, _, _, readable, _, _ => absurd readable id
  | number (.float _), _, _, _, readable, _, _ => absurd readable id
  | array [], _, _, _, readable, _, _ => by
    simp [layout, readValue, asRead, itemsAsRead, readable.1, skipGap, isGap]
  | object [], _, _, _, readable, _, _ => by
    simp [layout, readValue, asRead, rowsAsRead, Table.ofRows, readable.1, skipGap, isGap]
  | array (item :: items), fuel, rest, depth, readable, long, closes => by
    obtain ⟨shallow, hitems⟩ := readable
    have htext : layout width level (array (item :: items)) ++ rest =
        '[' :: (line width (level + 1) ++ (layoutItems width (level + 1) (item :: items) ++
          (line width level ++ ']' :: rest))) := by
      simp [layout]
    have hread := readItems_layout width (level + 1) level (item :: items) fuel rest (by simp)
      hitems (by simp [layout, line] at long; omega)
    obtain ⟨c, text, hstart, hgap, hc⟩ := layoutItems_eq_cons width (level + 1) hitems.1 items
      (line width level ++ ']' :: rest)
    rw [hstart] at hread
    rw [htext, readValue_array shallow
      (by rw [skipGap_line, hstart, skipGap_of_head hgap]) hc, hread]
    rfl
  | object (row :: rows), fuel, rest, depth, readable, long, closes => by
    obtain ⟨shallow, hrows⟩ := readable
    have htext : layout width level (object (row :: rows)) ++ rest =
        '\x7b' :: (line width (level + 1) ++ (layoutRows width (level + 1) (row :: rows) ++
          (line width level ++ '\x7d' :: rest))) := by
      simp [layout]
    have hread := readRows_layout width (level + 1) level (row :: rows) fuel rest (by simp)
      hrows (by simp [layout, line] at long; omega)
    obtain ⟨text, hstart⟩ := layoutRows_eq_cons width (level + 1) row rows
      (line width level ++ '\x7d' :: rest)
    rw [hstart] at hread
    rw [htext, readValue_object shallow
      (by rw [skipGap_line, hstart, skipGap_of_head (by decide)]), hread]
    rfl

/-- The reader takes items and the bracket behind them off the front of a text. -/
theorem readItems_layout (width level outer : Nat) : (items : List Json) → ∀ (fuel : Nat)
    (tail : List Char) {depth : Nat}, items ≠ [] → ReadableItems depth items →
      (layoutItems width level items).length + 2 ≤ fuel →
      readItems fuel depth (layoutItems width level items ++ (line width outer ++ ']' :: tail)) =
        some (itemsAsRead items, tail)
  | [], _, _, _, nonempty, _, _ => absurd rfl nonempty
  | [item], fuel, tail, depth, _, readable, long => by
    obtain ⟨fuel, rfl⟩ := Nat.exists_eq_add_of_le' (Nat.le_of_add_left_le long)
    have hitem := readValue_layout width level item fuel _ readable.1
      (by simp only [layoutItems] at long; omega) (closes_line width outer (']' :: tail))
    refine readItems_last hitem ?_
    rw [skipGap_line, skipGap_of_head (by decide)]
  | item :: next :: rest, fuel, tail, depth, _, readable, long => by
    obtain ⟨fuel, rfl⟩ := Nat.exists_eq_add_of_le' (Nat.le_of_add_left_le long)
    simp only [layoutItems, line, List.length_append, List.length_cons] at long
    have hitem := readValue_layout width level item fuel _ readable.1 (by omega)
      (closes_comma (line width level ++ (layoutItems width level (next :: rest) ++
        (line width outer ++ ']' :: tail))))
    have hrest := readItems_layout width level outer (next :: rest) (fuel + 1) tail (by simp)
      readable.2 (by omega)
    obtain ⟨c, text, hstart, hgap, -⟩ := layoutItems_eq_cons width level readable.2.1 rest
      (line width outer ++ ']' :: tail)
    have htext : layoutItems width level (item :: next :: rest) ++
        (line width outer ++ ']' :: tail) =
        layout width level item ++ ',' :: (line width level ++
          (layoutItems width level (next :: rest) ++ (line width outer ++ ']' :: tail))) := by
      simp [layoutItems]
    rw [htext, readItems_next hitem (skipGap_of_head (by decide) _), skipGap_line, hstart,
      skipGap_of_head hgap, ← hstart, hrest]
    rfl

/-- The reader takes rows and the brace behind them off the front of a text. -/
theorem readRows_layout (width level outer : Nat) : (rows : List (String × Json)) →
    ∀ (fuel : Nat) (tail : List Char) {depth : Nat}, rows ≠ [] → ReadableRows depth rows →
      (layoutRows width level rows).length + 2 ≤ fuel →
      readRows fuel depth (layoutRows width level rows ++ (line width outer ++ '\x7d' :: tail)) =
        some (rowsAsRead rows, tail)
  | [], _, _, _, nonempty, _, _ => absurd rfl nonempty
  | [(key, value)], fuel, tail, depth, _, readable, long => by
    obtain ⟨fuel, rfl⟩ := Nat.exists_eq_add_of_le' (Nat.le_of_add_left_le long)
    simp only [layoutRows, List.length_append, List.length_cons] at long
    have hvalue := readValue_layout width level value fuel _ readable.1 (by omega)
      (closes_line width outer ('\x7d' :: tail))
    have htext : layoutRows width level [(key, value)] ++ (line width outer ++ '\x7d' :: tail) =
        (quote key).toList ++ ':' :: ' ' :: (layout width level value ++
          (line width outer ++ '\x7d' :: tail)) := by
      simp [layoutRows]
    rw [htext]
    refine readRows_last ((congrArg _ (skipGap_value width level readable.1 _)).trans hvalue) ?_
    rw [skipGap_line, skipGap_of_head (by decide)]
  | (key, value) :: next :: rest, fuel, tail, depth, _, readable, long => by
    obtain ⟨fuel, rfl⟩ := Nat.exists_eq_add_of_le' (Nat.le_of_add_left_le long)
    simp only [layoutRows, line, List.length_append, List.length_cons] at long
    have hvalue := readValue_layout width level value fuel _ readable.1 (by omega)
      (closes_comma (line width level ++ (layoutRows width level (next :: rest) ++
        (line width outer ++ '\x7d' :: tail))))
    have hrest := readRows_layout width level outer (next :: rest) (fuel + 1) tail (by simp)
      readable.2 (by omega)
    obtain ⟨text, hstart⟩ := layoutRows_eq_cons width level next rest
      (line width outer ++ '\x7d' :: tail)
    have htext : layoutRows width level ((key, value) :: next :: rest) ++
        (line width outer ++ '\x7d' :: tail) =
        (quote key).toList ++ ':' :: ' ' :: (layout width level value ++
          ',' :: (line width level ++ (layoutRows width level (next :: rest) ++
            (line width outer ++ '\x7d' :: tail)))) := by
      simp [layoutRows]
    rw [htext, readRows_next ((congrArg _ (skipGap_value width level readable.1 _)).trans hvalue)
      (skipGap_of_head (by decide) _), skipGap_line, hstart, skipGap_of_head (by decide), ← hstart,
      hrest]
    rfl

end

/-! ## Whole texts -/

theorem map_fst_rowsAsRead (rows : List (String × Json)) :
    (rowsAsRead rows).map Prod.fst = rows.map Prod.fst := by
  induction rows with
  | nil => rfl
  | cons row rest ih => exact congrArg (row.1 :: ·) ih

theorem get?_rowsAsRead (rows : List (String × Json)) (key : String) :
    Table.get? (rowsAsRead rows) key = (Table.get? rows key).map asRead := by
  induction rows with
  | nil => rfl
  | cons row rest ih =>
    obtain ⟨own, value⟩ := row
    rw [rowsAsRead, Table.get?, Table.get?, ih]
    split <;> rfl

/-- An object whose rows have keys of their own is read with the rows it was written with. -/
theorem get?_asRead {rows : List (String × Json)} (nodup : (rows.map Prod.fst).Nodup)
    (key : String) : (asRead (object rows)).get? key = (Table.get? rows key).map asRead := by
  have hnodup : ((rowsAsRead rows).map Prod.fst).Nodup := (map_fst_rowsAsRead rows).symm ▸ nodup
  exact (Table.get?_ofRows hnodup key).trans (get?_rowsAsRead rows key)

/-- A text that is the layout of a value reads as this value. -/
theorem parse_layout {text : String} {width level : Nat} {value : Json}
    (h : text.toList = layout width level value) (readable : Readable 0 value) :
    parse text = some (asRead value) := by
  obtain ⟨c, rest, hstart, hgap, -⟩ := layout_eq_cons width level readable
  have hread := readValue_layout width level value _ [] readable (Nat.le_refl _) (by simp [Closes])
  rw [List.append_nil] at hread
  have hskip : skipGap (layout width level value) = layout width level value := by
    rw [hstart, skipGap_of_head hgap]
  unfold parse
  simp only [h, hskip, hread]
  rfl

/-- What is written over several lines is read back. -/
theorem parse_pretty {value : Json} (readable : Readable 0 value) :
    parse value.pretty = some (asRead value) :=
  parse_layout (toList_prettyAt 0 value) readable

end ResourceModel.Json

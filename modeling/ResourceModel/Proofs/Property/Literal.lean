import ResourceModel.Property.Static

set_option autoImplicit false

/-! # Literals of strings

A literal of a string is read up to the first quote that no backslash makes literal. What is written
between its quotes reads back as the text, whatever the text holds and whatever comes behind the
literal. -/

namespace ResourceModel.Literal

/-! ## Reading -/

/-- The text for which the inside of a literal stands. It stands for none if a quote in it is not
    made literal, or if its last character is a backslash that makes nothing literal. -/
def unescape? : List Char → Option (List Char)
  | [] => some []
  | '\\' :: c :: rest => (unescape? rest).map (c :: ·)
  | c :: rest => if c = '"' ∨ c = '\\' then none else (unescape? rest).map (c :: ·)

/-- The text of a literal whose opening quote was read, and what comes behind its closing quote, the
    first one that is not made literal. -/
def untilQuote? : List Char → Option (List Char × List Char)
  | [] => none
  | '\\' :: c :: rest => (untilQuote? rest).map fun found => (c :: found.1, found.2)
  | c :: rest =>
    if c = '"' then some ([], rest)
    else (untilQuote? rest).map fun found => (c :: found.1, found.2)

theorem unescape?_plain {c : Char} (plain : ¬(c = '"' ∨ c = '\\')) (rest : List Char) :
    unescape? (c :: rest) = (unescape? rest).map (c :: ·) := by
  rw [unescape?, if_neg plain]
  -- The rule for a backslash does not apply.
  intro _ _ hc
  exact absurd (Or.inr hc) plain

theorem untilQuote?_plain {c : Char} (plain : ¬(c = '"' ∨ c = '\\')) (rest : List Char) :
    untilQuote? (c :: rest) = (untilQuote? rest).map fun found => (c :: found.1, found.2) := by
  rw [untilQuote?, if_neg (mt Or.inl plain)]
  intro _ _ hc
  exact absurd (Or.inr hc) plain

theorem unescape?_escape_append (c : Char) (rest : List Char) :
    unescape? (escape c ++ rest) = (unescape? rest).map (c :: ·) := by
  unfold escape
  by_cases h : c = '"' ∨ c = '\\'
  · rw [if_pos h]
    rfl
  · rw [if_neg h, List.singleton_append, unescape?_plain h]

theorem unescape?_flatMap_escape (text : List Char) :
    unescape? (text.flatMap escape) = some text := by
  induction text with
  | nil => rfl
  | cons c text ih => rw [List.flatMap_cons, unescape?_escape_append, ih, Option.map_some]

/-- A quote behind an inside that stands for a text is the first one that is not made literal. -/
theorem untilQuote?_of_unescape? {inside text : List Char} (h : unescape? inside = some text)
    (rest : List Char) : untilQuote? (inside ++ '"' :: rest) = some (text, rest) := by
  fun_induction unescape? inside generalizing text with
  | case1 =>
    cases h
    rfl
  | case2 c inside ih =>
    obtain ⟨found, hfound, rfl⟩ := Option.map_eq_some_iff.1 h
    rw [List.cons_append, List.cons_append, untilQuote?, ih hfound, Option.map_some]
  | case3 => cases h
  | case4 c inside _ hplain ih =>
    obtain ⟨found, hfound, rfl⟩ := Option.map_eq_some_iff.1 h
    rw [List.cons_append, untilQuote?_plain hplain, ih hfound, Option.map_some]

theorem length_escape_le (c : Char) : (escape c).length ≤ 2 := by
  unfold escape
  split <;> simp

/-- Nothing shorter stands for a text than what has a backslash before each quote and each backslash
    of the text and none elsewhere. -/
theorem length_flatMap_escape_le {inside text : List Char} (h : unescape? inside = some text) :
    (text.flatMap escape).length ≤ inside.length := by
  fun_induction unescape? inside generalizing text with
  | case1 =>
    cases h
    exact Nat.le_refl 0
  | case2 c inside ih =>
    obtain ⟨found, hfound, rfl⟩ := Option.map_eq_some_iff.1 h
    have hrest := ih hfound
    have hc := length_escape_le c
    simp only [List.flatMap_cons, List.length_append, List.length_cons]
    omega
  | case3 => cases h
  | case4 c inside _ hplain ih =>
    obtain ⟨found, hfound, rfl⟩ := Option.map_eq_some_iff.1 h
    have hc : escape c = [c] := if_neg hplain
    rw [List.flatMap_cons, hc, List.singleton_append, List.length_cons, List.length_cons]
    exact Nat.succ_le_succ (ih hfound)

/-! ## Writing -/

theorem toList_quoted (text : String) :
    (quoted text).toList = '"' :: (text.toList.flatMap escape ++ ['"']) := by
  rw [quoted, String.toList_ofList, List.cons_append]

theorem quoted_injective : Function.Injective quoted := by
  intro first second h
  have hlists := congrArg String.toList h
  rw [toList_quoted, toList_quoted, List.cons.injEq, List.append_cancel_right_eq] at hlists
  have hread := congrArg unescape? hlists.2
  rw [unescape?_flatMap_escape, unescape?_flatMap_escape, Option.some.injEq] at hread
  exact String.toList_injective hread

/-- The text that a literal of a value is to hold: a string itself, and for any other value that is
    not null its compact text. -/
inductive Content : Json → String → Prop where
  | string (text : String) : Content (.string text) text
  | other {value : Json} (given : value ≠ .null) (unlike : ∀ text, value ≠ .string text) :
      Content value value.compact

theorem Content.ofValue_eq {value : Json} {text : String} (h : Content value text) :
    ofValue .string value = quoted text := by
  cases h with
  | string => rfl
  | other given unlike =>
    cases value with
    | null => exact absurd rfl given
    | string text => exact absurd rfl (unlike text)
    | bool | number | array | object => rfl

theorem exists_content {value : Json} (given : value ≠ .null) : ∃ text, Content value text := by
  cases value with
  | string text => exact ⟨text, .string text⟩
  | null | bool | number | array | object => exact ⟨_, .other given (by simp)⟩

/-- The literal of a value as a string is a text between quotes that reads back as the content of
    the value, also where any other text comes behind the literal; and no shorter one does, so there
    are backslashes only where there have to be. Values have the same literal exactly if they have
    the same content. -/
theorem reads_back_of_ofValue_string {value : Json} (given : value ≠ .null) :
    ∃ text inside, Content value text ∧
      (ofValue .string value).toList = '"' :: (inside ++ ['"']) ∧
      unescape? inside = some text.toList ∧
      (∀ rest, untilQuote? (inside ++ '"' :: rest) = some (text.toList, rest)) ∧
      (∀ chars, unescape? chars = some text.toList → inside.length ≤ chars.length) ∧
      ∀ other content, Content other content →
        (ofValue .string other = ofValue .string value ↔ content = text) := by
  obtain ⟨text, htext⟩ := exists_content given
  have hread := unescape?_flatMap_escape text.toList
  refine ⟨text, text.toList.flatMap escape, htext, ?_, hread, untilQuote?_of_unescape? hread,
    fun chars => length_flatMap_escape_le, fun other content hcontent => ?_⟩
  · rw [htext.ofValue_eq, toList_quoted]
  · rw [hcontent.ofValue_eq, htext.ofValue_eq]
    exact quoted_injective.eq_iff

/-- A list of a text that ends in a backslash behind a quote. -/
theorem reads_back_of_escapedItem :
    let value := Json.array [.string "\"\\"]
    value ≠ .null ∧ ∃ inside, (ofValue .string value).toList = '"' :: (inside ++ ['"']) ∧
      unescape? inside = some "[\"\\\"\\\\\"]".toList ∧
      untilQuote? (inside ++ '"' :: [';']) = some ("[\"\\\"\\\\\"]".toList, [';']) := by
  have given : Json.array [.string "\"\\"] ≠ .null := by simp
  obtain ⟨text, inside, hcontent, hliteral, hread, hbehind, -, -⟩ :=
    reads_back_of_ofValue_string given
  have htext : text = "[\"\\\"\\\\\"]" := by
    cases hcontent with
    | other => decide
  subst htext
  exact ⟨given, inside, hliteral, hread, hbehind [';']⟩

end ResourceModel.Literal

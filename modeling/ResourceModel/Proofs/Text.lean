import Mathlib.Data.List.Infix
import Mathlib.Data.List.TakeWhile
import ResourceModel.Text.Blank
import ResourceModel.Text.Split

set_option autoImplicit false

/-! # Pieces of texts

What a text holds is found and replaced part by part: a character that a piece does not hold keeps
apart what stands on its two sides. -/

namespace ResourceModel.Text

variable {piece other text : List Char}

/-- What is to hold of the characters of a text is checked for these characters alone. -/
instance decidableForallMem (text : List Char) (p : Char → Prop) [DecidablePred p] :
    Decidable (∀ c ∈ text, p c) :=
  List.decidableBAll p text

/-! ## Finding -/

theorem after?_append (start text : List Char) : after? start (start ++ text) = some text := by
  induction start with
  | nil => rfl
  | cons c start ih => simp [after?, ih]

theorem after?_eq_some_iff {start text rest : List Char} :
    after? start text = some rest ↔ text = start ++ rest := by
  induction start generalizing text with
  | nil => simp [after?, eq_comm]
  | cons s start ih =>
    cases text with
    | nil => simp [after?]
    | cons c text =>
      by_cases h : s = c
      · simp [after?, h, ih]
      · simp [after?, h, Ne.symm h]

theorem before?_eq_some_iff {ending text front : List Char} :
    before? ending text = some front ↔ text = front ++ ending := by
  unfold before?
  rw [Option.map_eq_some_iff]
  constructor
  · rintro ⟨rest, hrest, rfl⟩
    rw [← List.reverse_reverse ending, ← List.reverse_append, ← after?_eq_some_iff.1 hrest,
      List.reverse_reverse]
  · rintro rfl
    exact ⟨front.reverse, after?_eq_some_iff.2 (List.reverse_append ..), List.reverse_reverse front⟩

theorem isSome_after?_iff (start text : List Char) :
    (after? start text).isSome = true ↔ start <+: text := by
  induction start generalizing text with
  | nil => simp [after?]
  | cons s start ih =>
    cases text with
    | nil => simp [after?]
    | cons c text =>
      rw [List.cons_prefix_cons, ← ih, after?]
      split
      · next h => simp [h]
      · next h => simp [h]

theorem before?_append (text ending : List Char) : before? ending (text ++ ending) = some text := by
  unfold before?
  rw [List.reverse_append, after?_append, Option.map_some, List.reverse_reverse]

theorem before?_of_getLast? {c d : Char} (h : text.getLast? = some d) (other : d ≠ c) :
    before? [c] text = none := by
  obtain ⟨front, rfl⟩ := List.getLast?_eq_some_iff.1 h
  simp [before?, after?, Ne.symm other]

theorem cut?_eq_none {separator : Char} {text : List Char} (h : separator ∉ text) :
    cut? separator text = none := by
  induction text with
  | nil => rfl
  | cons c text ih =>
    simp only [List.mem_cons, not_or] at h
    rw [cut?, if_neg (Ne.symm h.1), ih h.2]
    rfl

theorem cut?_of_not_mem {separator : Char} {text : List Char} (h : separator ∉ text)
    (rest : List Char) : cut? separator (text ++ separator :: rest) = some (text, rest) := by
  induction text with
  | nil => simp [cut?]
  | cons c text ih =>
    simp only [List.mem_cons, not_or] at h
    rw [List.cons_append, cut?, if_neg (Ne.symm h.1), ih h.2]
    rfl

theorem cut?_eq_some_iff {separator : Char} {text front rest : List Char} :
    cut? separator text = some (front, rest) ↔
      text = front ++ separator :: rest ∧ separator ∉ front := by
  constructor
  · intro h
    have hmem : separator ∈ text := by
      by_contra hmem
      rw [cut?_eq_none hmem] at h
      cases h
    obtain ⟨first, others, rfl, hfirst⟩ := List.eq_append_cons_of_mem hmem
    rw [cut?_of_not_mem hfirst] at h
    cases h
    exact ⟨rfl, hfirst⟩
  · rintro ⟨rfl, hfront⟩
    exact cut?_of_not_mem hfront rest

/-- A piece that starts a text lies before a character that it does not hold. -/
theorem prefix_append_cons_iff {c : Char} (h : c ∉ piece) (text rest : List Char) :
    piece <+: text ++ c :: rest ↔ piece <+: text := by
  induction text generalizing piece with
  | nil =>
    cases piece with
    | nil => simp
    | cons d piece => simp [Ne.symm (List.ne_of_not_mem_cons h)]
  | cons d text ih =>
    cases piece with
    | nil => simp
    | cons e piece =>
      rw [List.cons_append, List.cons_prefix_cons, List.cons_prefix_cons,
        ih (List.not_mem_of_not_mem_cons h)]

theorem suffixAfter?_append (piece rest : List Char) :
    suffixAfter? piece (piece ++ rest) = some rest := by
  have hafter := after?_append piece rest
  unfold suffixAfter?
  split
  · next hnil => rwa [← hnil]
  · next c text hcons => rw [← hcons, hafter]

/-- A piece that stands nowhere in front of a character which it does not hold is found behind it. -/
theorem suffixAfter?_append_cons {c : Char} (nonempty : piece ≠ []) (h : c ∉ piece)
    (absent : ¬ piece <:+: text) (rest : List Char) :
    suffixAfter? piece (text ++ c :: rest) = suffixAfter? piece rest := by
  have no_start : ∀ front, ¬ piece <+: front → after? piece (front ++ c :: rest) = none :=
    fun front hfront => Option.not_isSome_iff_eq_none.1 fun hstarts =>
      hfront ((prefix_append_cons_iff h front rest).1 ((isSome_after?_iff _ _).1 hstarts))
  induction text with
  | nil =>
    have hnone := no_start [] fun hstarts => nonempty (List.prefix_nil.1 hstarts)
    rw [List.nil_append] at hnone ⊢
    rw [suffixAfter?, hnone]
  | cons d text ih =>
    rw [List.infix_cons_iff, not_or] at absent
    have hnone := no_start (d :: text) absent.1
    rw [List.cons_append] at hnone ⊢
    rw [suffixAfter?, hnone]
    exact ih absent.2

/-! ## What stands last -/

theorem takeWhile_append_of_stop {p : Char → Bool} {front rest : List Char}
    (hfront : ∀ c ∈ front, p c = true) (stop : ∀ c ∈ rest.head?, p c = false) :
    (front ++ rest).takeWhile p = front := by
  rw [List.takeWhile_append_of_pos hfront]
  cases rest with
  | nil => simp
  | cons c rest => simp [stop c rfl]

theorem reverse_takeWhile_reverse {p : Char → Bool} {front name : List Char}
    (hname : ∀ c ∈ name, p c = true) (stop : ∀ c ∈ front.getLast?, p c = false) :
    ((front ++ name).reverse.takeWhile p).reverse = name := by
  rw [List.reverse_append, takeWhile_append_of_stop, List.reverse_reverse]
  · simpa using hname
  · simpa using stop

/-! ## Trimming -/

theorem dropWhile_of_head? {p : Char → Bool} (h : ∀ c ∈ text.head?, p c = false) :
    text.dropWhile p = text := by
  cases text with
  | nil => rfl
  | cons c text => simp [h c rfl]

theorem trimBy_of_forall {blank : Char → Bool} (h : ∀ c ∈ text, blank c = false) :
    trimBy blank text = text := by
  have hhead : ∀ c ∈ text.head?, blank c = false := fun c hc => h c (List.mem_of_mem_head? hc)
  have hlast : ∀ c ∈ text.reverse.head?, blank c = false := fun c hc =>
    h c (List.mem_reverse.1 (List.mem_of_mem_head? hc))
  rw [trimBy, dropLeading, dropLeading, dropWhile_of_head? hhead, dropWhile_of_head? hlast,
    List.reverse_reverse]

theorem head?_dropWhile {p : Char → Bool} {c : Char} (h : c ∈ (text.dropWhile p).head?) :
    p c = false := by
  have hnot := List.head?_dropWhile_not p text
  rw [Option.mem_def.1 h] at hnot
  exact hnot

theorem dropWhile_append_of_stop {p : Char → Bool} {front rest : List Char}
    (hfront : ∀ c ∈ front, p c = true) (stop : ∀ c ∈ rest.head?, p c = false) :
    (front ++ rest).dropWhile p = rest := by
  rw [List.dropWhile_append_of_pos hfront, dropWhile_of_head? stop]

/-- What trimming leaves stands in the text between characters of the class, and neither begins nor
    ends with one. -/
theorem exists_trimBy (blank : Char → Bool) (text : List Char) :
    ∃ front back, text = front ++ trimBy blank text ++ back ∧
      (∀ c ∈ front ++ back, blank c = true) ∧
      (∀ c ∈ (trimBy blank text).head?, blank c = false) ∧
      ∀ c ∈ (trimBy blank text).getLast?, blank c = false := by
  let rest := text.dropWhile blank
  have hrest : rest = trimBy blank text ++ (rest.reverse.takeWhile blank).reverse := by
    rw [trimBy, dropLeading, dropLeading, ← List.reverse_append, List.takeWhile_append_dropWhile,
      List.reverse_reverse]
  refine ⟨text.takeWhile blank, (rest.reverse.takeWhile blank).reverse, ?_, ?_, ?_, ?_⟩
  · rw [List.append_assoc, ← hrest, List.takeWhile_append_dropWhile]
  · intro c hc
    rcases List.mem_append.1 hc with hfront | hback
    · exact List.mem_takeWhile_imp hfront
    · exact List.mem_takeWhile_imp (List.mem_reverse.1 hback)
  · intro c hc
    have hhead : c ∈ rest.head? := by
      rw [hrest, List.head?_append, Option.mem_def.1 hc]
      rfl
    exact head?_dropWhile hhead
  · intro c hc
    rw [trimBy, List.getLast?_reverse] at hc
    exact head?_dropWhile hc

/-- Characters of the class at both ends are trimmed away. -/
theorem trimBy_append {blank : Char → Bool} {front core back : List Char}
    (hends : ∀ c ∈ front ++ back, blank c = true) (hhead : ∀ c ∈ core.head?, blank c = false)
    (hlast : ∀ c ∈ core.getLast?, blank c = false) :
    trimBy blank (front ++ core ++ back) = core := by
  obtain ⟨hfront, hback⟩ := List.forall_mem_append.1 hends
  cases core with
  | nil =>
    have hnil : (front ++ [] ++ back).dropWhile blank = [] := by
      rw [List.append_nil]
      exact List.dropWhile_eq_nil_iff.2 hends
    rw [trimBy, dropLeading, dropLeading, hnil]
    rfl
  | cons c core =>
    have hleading : (front ++ (c :: core) ++ back).dropWhile blank = (c :: core) ++ back := by
      rw [List.append_assoc]
      exact dropWhile_append_of_stop hfront hhead
    have htrailing : (back.reverse ++ (c :: core).reverse).dropWhile blank = (c :: core).reverse :=
      dropWhile_append_of_stop (by simpa using hback) (by rwa [List.head?_reverse])
    rw [trimBy, dropLeading, dropLeading, hleading, List.reverse_append, htrailing,
      List.reverse_reverse]

/-! ## Replacing -/

theorem replaceFrom_of_start {c : Char} (h : piece <+: c :: text) :
    replaceFrom piece other 0 (c :: text) =
      other ++ replaceFrom piece other (piece.length - 1) text := by
  obtain ⟨rest, hrest⟩ := Option.isSome_iff_exists.1 ((isSome_after?_iff piece (c :: text)).2 h)
  rw [replaceFrom, hrest]

theorem replaceFrom_of_no_start {c : Char} (h : ¬ piece <+: c :: text) :
    replaceFrom piece other 0 (c :: text) = c :: replaceFrom piece other 0 text := by
  have hnone : after? piece (c :: text) = none :=
    Option.not_isSome_iff_eq_none.1 (mt (isSome_after?_iff piece (c :: text)).1 h)
  rw [replaceFrom, hnone]

theorem replaceFrom_skip (piece other skipped rest : List Char) :
    replaceFrom piece other skipped.length (skipped ++ rest) = replaceFrom piece other 0 rest := by
  induction skipped with
  | nil => rfl
  | cons c skipped ih => rw [List.length_cons, List.cons_append, replaceFrom, ih]

theorem replaceFrom_self {c : Char} (piece other rest : List Char) :
    replaceFrom (c :: piece) other 0 (c :: piece ++ rest) =
      other ++ replaceFrom (c :: piece) other 0 rest :=
  (replaceFrom_of_start (List.prefix_append _ _)).trans
    (congrArg (other ++ ·) (replaceFrom_skip (c :: piece) other piece rest))

/-- Nothing is replaced in front of the first character of a piece. -/
theorem replaceFrom_append_of_not_mem {c : Char} (h : c ∉ text) (piece other rest : List Char) :
    replaceFrom (c :: piece) other 0 (text ++ rest) =
      text ++ replaceFrom (c :: piece) other 0 rest := by
  induction text with
  | nil => rfl
  | cons d text ih =>
    simp only [List.mem_cons, not_or] at h
    rw [List.cons_append, replaceFrom_of_no_start (by simp [h.1]), ih h.2, List.cons_append]

theorem replaceFrom_of_not_mem {c : Char} (h : c ∉ text) (piece other : List Char) :
    replaceFrom (c :: piece) other 0 text = text := by
  simpa [replaceFrom] using replaceFrom_append_of_not_mem h piece other []

/-- A character that a piece does not hold stays, and what stands before it and behind it is replaced
    by itself. -/
theorem replaceFrom_append_cons {c : Char} (nonempty : piece ≠ []) (h : c ∉ piece)
    (other rest : List Char) {skip : Nat} (inside : skip ≤ text.length) :
    replaceFrom piece other skip (text ++ c :: rest) =
      replaceFrom piece other skip text ++ c :: replaceFrom piece other 0 rest := by
  induction text generalizing skip with
  | nil =>
    obtain rfl := Nat.le_zero.1 inside
    have hstart : ¬ piece <+: c :: rest := fun hstarts =>
      nonempty (List.prefix_nil.1 ((prefix_append_cons_iff h [] rest).1 hstarts))
    rw [List.nil_append, replaceFrom_of_no_start hstart]
    rfl
  | cons d text ih =>
    cases skip with
    | succ skip => exact ih (Nat.le_of_succ_le_succ inside)
    | zero =>
      have hiff := prefix_append_cons_iff h (d :: text) rest
      rw [List.cons_append] at hiff ⊢
      by_cases hstarts : piece <+: d :: text
      · have hlength := hstarts.length_le
        rw [List.length_cons] at hlength
        rw [replaceFrom_of_start (hiff.2 hstarts), replaceFrom_of_start hstarts,
          ih (by omega), List.append_assoc]
      · rw [replaceFrom_of_no_start (mt hiff.1 hstarts), replaceFrom_of_no_start hstarts,
          ih (Nat.zero_le _), List.cons_append]

theorem mem_replaceFrom {c : Char} {skip : Nat} (h : c ∈ replaceFrom piece other skip text) :
    c ∈ other ∨ c ∈ text := by
  induction text generalizing skip with
  | nil => cases skip <;> simp [replaceFrom] at h
  | cons d text ih =>
    cases skip with
    | succ skip => exact (ih h).imp id (List.mem_cons_of_mem d)
    | zero =>
      by_cases hstarts : piece <+: d :: text
      · rw [replaceFrom_of_start hstarts] at h
        rcases List.mem_append.1 h with hother | hrest
        · exact Or.inl hother
        · exact (ih hrest).imp id (List.mem_cons_of_mem d)
      · rw [replaceFrom_of_no_start hstarts] at h
        rcases List.mem_cons.1 h with rfl | hrest
        · exact Or.inr List.mem_cons_self
        · exact (ih hrest).imp id (List.mem_cons_of_mem d)

end ResourceModel.Text

namespace ResourceModel

theorem textAfter?_eq_some_iff {start text rest : String} :
    textAfter? start text = some rest ↔ text = start ++ rest := by
  unfold textAfter?
  rw [Option.map_eq_some_iff]
  constructor
  · rintro ⟨chars, hchars, rfl⟩
    apply String.toList_injective
    simpa using Text.after?_eq_some_iff.1 hchars
  · rintro rfl
    exact ⟨rest.toList, Text.after?_eq_some_iff.2 (by simp), by simp⟩

theorem textBefore?_eq_some_iff {ending text front : String} :
    textBefore? ending text = some front ↔ text = front ++ ending := by
  unfold textBefore?
  rw [Option.map_eq_some_iff]
  constructor
  · rintro ⟨chars, hchars, rfl⟩
    apply String.toList_injective
    simpa using Text.before?_eq_some_iff.1 hchars
  · rintro rfl
    exact ⟨front.toList, Text.before?_eq_some_iff.2 (by simp), by simp⟩

end ResourceModel

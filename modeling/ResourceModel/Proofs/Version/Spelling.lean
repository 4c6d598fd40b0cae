import Mathlib.Data.List.Forall2
import ResourceModel.Proofs.Version

set_option autoImplicit false

/-! # Spellings of versions

A version is spelled by one to three numbers with dots or underscores between them, behind a `v` if
there is one, between blanks if there are any. All spellings of a version have one tag each, which
spells it too, and are ordered by the numbers alone. -/

namespace ResourceModel.Version

/-! ## Bodies of tags -/

/-- A text with underscores for its dots. -/
def underscored (text : List Char) : List Char :=
  text.map fun c => if c = '.' then '_' else c

/-- Whether a text is a body between blanks, behind one `v` if it begins with one. -/
inductive Strips : List Char → List Char → Prop where
  | marked {front body back : List Char} (blank : ∀ c ∈ front ++ back, Text.isBlank c = true)
      (last : ∀ c ∈ body.getLast?, Text.isBlank c = false) :
      Strips (front ++ ('v' :: body) ++ back) body
  | plain {front body back : List Char} (blank : ∀ c ∈ front ++ back, Text.isBlank c = true)
      (first : ∀ c ∈ body.head?, Text.isBlank c = false ∧ c ≠ 'v')
      (last : ∀ c ∈ body.getLast?, Text.isBlank c = false) : Strips (front ++ body ++ back) body

theorem exists_strips (text : List Char) : ∃ body, Strips text body := by
  obtain ⟨front, back, htext, blank, first, last⟩ := Text.exists_trimBy Text.isBlank text
  cases hcore : Text.trimBy Text.isBlank text with
  | nil =>
    rw [hcore] at htext
    rw [htext]
    exact ⟨[], .plain blank (by simp) (by simp)⟩
  | cons c rest =>
    rw [hcore] at htext first last
    rw [htext]
    by_cases hc : c = 'v'
    · subst hc
      refine ⟨rest, .marked blank fun d hd => last d ?_⟩
      rw [List.getLast?_cons, Option.mem_def.1 hd]
      rfl
    · refine ⟨c :: rest, .plain blank ?_ last⟩
      rintro d ⟨⟩
      exact ⟨first c rfl, hc⟩

theorem tagBody_of_strips {text body : List Char} (h : Strips text body) :
    tagBody text = underscored body := by
  cases h with
  | @marked front body back blank last =>
    have trimmed : Text.trim (front ++ ('v' :: body) ++ back) = 'v' :: body := by
      refine Text.trimBy_append blank (by rintro c ⟨⟩; decide) fun c hc => ?_
      cases hlast : body.getLast? with
      | none =>
        rw [List.getLast?_cons, hlast] at hc
        cases hc
        decide
      | some d =>
        rw [List.getLast?_cons, hlast] at hc
        cases hc
        exact last d hlast
    rw [tagBody, trimmed]
    rfl
  | @plain front body back blank first last =>
    have trimmed : Text.trim (front ++ body ++ back) = body :=
      Text.trimBy_append blank (fun c hc => (first c hc).1) last
    rw [tagBody, trimmed]
    split
    · -- a body that is not behind a mark does not begin with one
      exact absurd rfl (first 'v' rfl).2
    · rfl

theorem underscored_of_undotted {text : List Char} (undotted : '.' ∉ text) :
    underscored text = text := by
  refine (List.map_congr_left fun c hc => if_neg ?_).trans (List.map_id' text)
  rintro rfl
  exact undotted hc

theorem dot_not_mem_underscored (text : List Char) : '.' ∉ underscored text := by
  intro h
  obtain ⟨c, -, hc⟩ := List.mem_map.1 h
  split at hc
  · cases hc
  · next hne => exact hne hc

theorem isBlank_of_getLast?_tagBody {text : List Char} :
    ∀ c ∈ (tagBody text).getLast?, Text.isBlank c = false := by
  obtain ⟨body, h⟩ := exists_strips text
  have last : ∀ c ∈ body.getLast?, Text.isBlank c = false := by
    cases h <;> assumption
  intro c hc
  rw [tagBody_of_strips h, underscored, List.getLast?_map, Option.mem_def,
    Option.map_eq_some_iff] at hc
  obtain ⟨d, hd, rfl⟩ := hc
  split
  · decide
  · exact last d hd

theorem tagBody_tagBody (text : List Char) : tagBody ('v' :: tagBody text) = tagBody text := by
  have stripped : Strips ([] ++ ('v' :: tagBody text) ++ []) (tagBody text) :=
    .marked (by simp) isBlank_of_getLast?_tagBody
  have undotted : '.' ∉ tagBody text := by
    obtain ⟨body, h⟩ := exists_strips text
    rw [tagBody_of_strips h]
    exact dot_not_mem_underscored body
  rw [List.nil_append, List.append_nil] at stripped
  rw [tagBody_of_strips stripped, underscored_of_undotted undotted]

/-- Nothing is changed in a tag. -/
theorem normalizeTag_normalizeTag (raw : String) :
    normalizeTag (normalizeTag raw) = normalizeTag raw := by
  unfold normalizeTag
  rw [String.toList_ofList, tagBody_tagBody]

/-- A text and its tag spell the same. -/
theorem parse?_normalizeTag (raw : String) : parse? (normalizeTag raw) = parse? raw := by
  unfold parse? normalizeTag
  rw [String.toList_ofList, tagBody_tagBody]

/-! ## Parts of a tag -/

/-- Whether a part of a tag spells a number: decimal digits, behind a plus sign if there is one, of
    a number that fits into 64 bits. -/
inductive IsPart : List Char → Nat → Prop where
  | plain {digits : List Char} (h : IsNumber digits) : IsPart digits (number digits)
  | signed {digits : List Char} (h : IsNumber digits) : IsPart ('+' :: digits) (number digits)

/-- Whether the body of a tag splits into one to three parts that spell numbers. -/
structure Spells (body : List Char) (parts : List (List Char)) (numbers : List Nat) : Prop where
  parts_eq : Text.parts '_' body = parts
  isPart : List.Forall₂ IsPart parts numbers
  oneToThree : 1 ≤ parts.length ∧ parts.length ≤ 3

theorem digits_eq_some_iff {digits : List Char} {n : Nat} :
    (if digits.isEmpty || !digits.all Char.isDigit then none
      else if number digits < Nat.pow 2 64 then some (number digits) else none) = some n ↔
      IsNumber digits ∧ number digits = n := by
  constructor
  · intro h
    split at h
    · cases h
    · next hdigits =>
      rw [Bool.or_eq_true, not_or, Bool.not_eq_true', Bool.not_eq_false] at hdigits
      obtain ⟨fits, heq⟩ := Option.ite_none_right_eq_some.1 h
      exact ⟨⟨by simpa using hdigits.1, List.all_eq_true.1 hdigits.2, fits⟩, Option.some.inj heq⟩
  · rintro ⟨h, rfl⟩
    have hdigits : ¬(digits.isEmpty || !digits.all Char.isDigit) = true := by
      simpa using ⟨h.nonempty, h.isDigit⟩
    rw [if_neg hdigits, if_pos h.fits]

theorem part?_eq_some_iff {text : List Char} {n : Nat} : part? text = some n ↔ IsPart text n := by
  constructor
  · intro h
    unfold part? at h
    split at h
    · next digits =>
      obtain ⟨hnumber, rfl⟩ := digits_eq_some_iff.1 h
      exact .signed hnumber
    · obtain ⟨hnumber, rfl⟩ := digits_eq_some_iff.1 h
      exact .plain hnumber
  · intro h
    cases h with
    | plain hnumber => exact hnumber.part?_eq
    | signed hnumber => exact digits_eq_some_iff.2 ⟨hnumber, rfl⟩

theorem map_part?_eq_iff {parts : List (List Char)} {numbers : List Nat} :
    parts.map part? = numbers.map some ↔ List.Forall₂ IsPart parts numbers := by
  rw [← List.forall₂_eq_eq_eq, List.forall₂_map_left_iff, List.forall₂_map_right_iff]
  simp only [part?_eq_some_iff]

/-- The version with a tag of the given parts, whose numbers are the given ones, a missing one
    being zero. -/
def ofParts (parts : List (List Char)) (numbers : List Nat) : Version where
  tag := String.ofList ('v' :: ['_'].intercalate parts)
  major := numbers.getD 0 0
  minor := numbers.getD 1 0
  patch := numbers.getD 2 0

theorem ofBody?_eq_some_iff {body : List Char} {version : Version} :
    ofBody? body = some version ↔
      ∃ parts numbers, Spells body parts numbers ∧ version = ofParts parts numbers := by
  have joined := Text.intercalate_parts '_' body
  constructor
  · intro h
    have spells : ∀ numbers : List Nat, (Text.parts '_' body).map part? = numbers.map some →
        1 ≤ numbers.length ∧ numbers.length ≤ 3 → Spells body (Text.parts '_' body) numbers := by
      intro numbers hmap hlength
      have hnumbers := map_part?_eq_iff.1 hmap
      exact ⟨rfl, hnumbers, hnumbers.length_eq ▸ hlength⟩
    unfold ofBody? at h
    split at h
    · next major hparts =>
      cases h
      exact ⟨_, [major], spells _ hparts (by simp), by simp [ofParts, joined]⟩
    · next major minor hparts =>
      cases h
      exact ⟨_, [major, minor], spells _ hparts (by simp), by simp [ofParts, joined]⟩
    · next major minor patch hparts =>
      cases h
      exact ⟨_, [major, minor, patch], spells _ hparts (by simp), by simp [ofParts, joined]⟩
    · cases h
  · rintro ⟨parts, numbers, ⟨rfl, hnumbers, hlength⟩, rfl⟩
    have hparts := map_part?_eq_iff.2 hnumbers
    rw [hnumbers.length_eq] at hlength
    unfold ofBody?
    match numbers, hlength with
    | [major], _ => simp [hparts, ofParts, joined]
    | [major, minor], _ => simp [hparts, ofParts, joined]
    | [major, minor, patch], _ => simp [hparts, ofParts, joined]

/-- What a text spells: after blanks and a mark are taken away, one to three numbers. -/
theorem parse?_eq_some_iff {raw : String} {version : Version} :
    parse? raw = some version ↔
      ∃ body parts numbers, Strips raw.toList body ∧ Spells (underscored body) parts numbers ∧
        version = ofParts parts numbers := by
  unfold parse?
  rw [ofBody?_eq_some_iff]
  obtain ⟨stripped, hstripped⟩ := exists_strips raw.toList
  constructor
  · rintro ⟨parts, numbers, hspells, hversion⟩
    rw [tagBody_of_strips hstripped] at hspells
    exact ⟨stripped, parts, numbers, hstripped, hspells, hversion⟩
  · rintro ⟨body, parts, numbers, hstrips, hspells, hversion⟩
    rw [← tagBody_of_strips hstrips] at hspells
    exact ⟨parts, numbers, hspells, hversion⟩

theorem tag_eq_of_parse? {raw : String} {version : Version} (h : parse? raw = some version) :
    version.tag = normalizeTag raw :=
  tag_of_ofBody? h

/-! ## Spellings of two numbers -/

theorem normalizeTag_marked {body : List Char} (last : ∀ c ∈ body.getLast?, c.isDigit = true) :
    normalizeTag (String.ofList ('v' :: body)) = String.ofList ('v' :: underscored body) := by
  have stripped : Strips ([] ++ ('v' :: body) ++ []) body :=
    .marked (by simp) fun c hc => not_isBlank_of_isDigit (last c hc)
  rw [List.nil_append, List.append_nil] at stripped
  unfold normalizeTag
  rw [String.toList_ofList, tagBody_of_strips stripped]

theorem normalizeTag_plain {body : List Char} (first : ∀ c ∈ body.head?, c.isDigit = true)
    (last : ∀ c ∈ body.getLast?, c.isDigit = true) :
    normalizeTag (String.ofList body) = String.ofList ('v' :: underscored body) := by
  have stripped : Strips ([] ++ body ++ []) body :=
    .plain (by simp) (fun c hc => ⟨not_isBlank_of_isDigit (first c hc),
      ne_of_isDigit (first c hc) (by decide)⟩) fun c hc => not_isBlank_of_isDigit (last c hc)
  rw [List.nil_append, List.append_nil] at stripped
  unfold normalizeTag
  rw [String.toList_ofList, tagBody_of_strips stripped]

theorem underscored_append (first second : List Char) :
    underscored (first ++ second) = underscored first ++ underscored second :=
  List.map_append

namespace IsNumber

variable {major minor : List Char}

theorem underscored_eq (h : IsNumber major) : underscored major = major :=
  underscored_of_undotted (h.not_mem (by decide))

theorem zero : IsNumber ['0'] :=
  ⟨by simp, by simp, by decide⟩

theorem isDigit_of_head? (h : IsNumber major) (rest : List Char) :
    ∀ c ∈ (major ++ rest).head?, c.isDigit = true := by
  obtain ⟨c, digits, rfl⟩ := List.exists_cons_of_ne_nil h.nonempty
  rintro d ⟨⟩
  exact h.isDigit c List.mem_cons_self

theorem isDigit_of_getLast? (h : IsNumber minor) {text : List Char} (ends : minor <:+ text) :
    ∀ c ∈ text.getLast?, c.isDigit = true := by
  obtain ⟨front, rfl⟩ := ends
  intro c hc
  rw [List.getLast?_append_of_ne_nil front h.nonempty] at hc
  exact h.isDigit c (List.mem_of_mem_getLast? hc)

theorem underscored_two (hmajor : IsNumber major) (hminor : IsNumber minor) :
    underscored (major ++ '.' :: minor) = major ++ '_' :: minor := by
  have dot : underscored ('.' :: minor) = '_' :: underscored minor := rfl
  rw [underscored_append, dot, hmajor.underscored_eq, hminor.underscored_eq]

/-- Two numbers are spelled with a dot between them, or as a tag, or with a third one that is
    zero. -/
theorem order_spellings (hmajor : IsNumber major) (hminor : IsNumber minor) :
    ∃ a b c, parse? (String.ofList (major ++ '.' :: minor)) = some a ∧
      parse? (String.ofList ('v' :: (major ++ '_' :: minor))) = some b ∧
      parse? (String.ofList ('v' :: (major ++ '.' :: (minor ++ ['.', '0'])))) = some c ∧
      a.order b = .eq ∧ b.order c = .eq := by
  have dotted : parse? (String.ofList (major ++ '.' :: minor)) =
      parse? (String.ofList ('v' :: (major ++ '_' :: minor))) := by
    have last := hminor.isDigit_of_getLast?
      ((List.suffix_cons '.' minor).trans (List.suffix_append major _))
    rw [← parse?_normalizeTag, normalizeTag_plain (hmajor.isDigit_of_head? _) last,
      hmajor.underscored_two hminor]
  have closed : parse? (String.ofList ('v' :: (major ++ '.' :: (minor ++ ['.', '0'])))) =
      parse? (String.ofList ('v' :: (major ++ '_' :: (minor ++ '_' :: ['0'])))) := by
    have last : ∀ c ∈ (major ++ '.' :: (minor ++ ['.', '0'])).getLast?, c.isDigit = true :=
      zero.isDigit_of_getLast? ⟨major ++ '.' :: (minor ++ ['.']), by simp⟩
    have dot : ∀ rest, underscored ('.' :: rest) = '_' :: underscored rest := fun _ => rfl
    rw [← parse?_normalizeTag, normalizeTag_marked last, underscored_append, dot,
      hminor.underscored_two zero, hmajor.underscored_eq]
  have two := (Spelled.two hmajor hminor).fullTag.2
  have three := (Spelled.three hmajor hminor zero).fullTag.2
  exact ⟨_, _, _, dotted.trans two, two, closed.trans three, order_eq_eq_iff.2 rfl,
    order_eq_eq_iff.2 rfl⟩

end IsNumber

/-- A text spells a version exactly if one to three numbers are left of it, parted by dots or
    underscores, without the blanks around it and one leading `v`; the tag holds these parts, and is
    its own tag and spells the same version. Versions are ordered as their numbers are, the first
    one first, which is a total preorder; those that it does not tell apart are the same, however
    they are spelled. -/
theorem parse?_and_order_laws (raw : String) :
    (∀ version, parse? raw = some version ↔
      ∃ body parts numbers, Strips raw.toList body ∧ Spells (underscored body) parts numbers ∧
        version = ofParts parts numbers) ∧
    normalizeTag (normalizeTag raw) = normalizeTag raw ∧
    (∀ version, parse? raw = some version →
      version.tag = normalizeTag raw ∧ parse? version.tag = some version) ∧
    (∀ a b c : Version, a.order b = compare a.numbers b.numbers ∧
      a.order a ≠ .gt ∧ (a.order b ≠ .gt ∨ b.order a ≠ .gt) ∧
      (a.order b ≠ .gt → b.order c ≠ .gt → a.order c ≠ .gt) ∧
      (a.same b = true ↔ a.order b = .eq)) ∧
    ∀ major minor, IsNumber major → IsNumber minor →
      ∃ a b c, parse? (String.ofList (major ++ '.' :: minor)) = some a ∧
        parse? (String.ofList ('v' :: (major ++ '_' :: minor))) = some b ∧
        parse? (String.ofList ('v' :: (major ++ '.' :: (minor ++ ['.', '0'])))) = some c ∧
        a.order b = .eq ∧ b.order c = .eq := by
  refine ⟨fun version => parse?_eq_some_iff, normalizeTag_normalizeTag raw, fun version h => ?_,
    fun a b c => ?_, fun major minor hmajor hminor => hmajor.order_spellings hminor⟩
  · have htag := tag_eq_of_parse? h
    exact ⟨htag, by rw [htag, parse?_normalizeTag, h]⟩
  · simp only [order_ne_gt_iff]
    exact ⟨order_eq_compare a b, le_refl _, le_total _ _, le_trans, same_iff⟩

/-- A tag need not be written as a bundle has it. -/
example : (parse? " v+1.07 ").map (·.tag) = some "v+1_07" := by decide

end ResourceModel.Version

import Mathlib.Data.Prod.Lex
import ResourceModel.Assets
import ResourceModel.Proofs.Path
import ResourceModel.Proofs.Text

set_option autoImplicit false

/-! # Tags and numbers of versions

Versions are ordered by their numbers, the first one first. A full tag is `v` and two or three decimal
numbers with underscores between them; it is read as the version of these numbers, under the tag as it
is spelled. -/

namespace ResourceModel

/-! ## File stems -/

theorem splitStem_append {id : String} (undotted : '.' ∉ id.toList) (tag : String) :
    splitStem (id ++ "." ++ tag) = (id, some tag) := by
  have hchars : (id ++ "." ++ tag).toList = id.toList ++ '.' :: tag.toList := by simp
  unfold splitStem cutAt?
  rw [hchars, Text.cut?_of_not_mem undotted, Option.map_some]
  simp

theorem splitStem_eq_iff {stem id tag : String} :
    splitStem stem = (id, some tag) ↔ stem = id ++ "." ++ tag ∧ '.' ∉ id.toList := by
  constructor
  · intro h
    unfold splitStem at h
    split at h
    · next hcut =>
      cases h
      obtain ⟨⟨front, rest⟩, hpair, heq⟩ := Option.map_eq_some_iff.1 hcut
      cases heq
      obtain ⟨hstem, hfront⟩ := Text.cut?_eq_some_iff.1 hpair
      refine ⟨String.toList_injective ?_, by simpa using hfront⟩
      simp [hstem]
    · cases h
  · rintro ⟨rfl, undotted⟩
    exact splitStem_append undotted tag

theorem splitStem_of_undotted {stem : String} (undotted : '.' ∉ stem.toList) :
    splitStem stem = (stem, none) := by
  unfold splitStem cutAt?
  rw [Text.cut?_eq_none undotted, Option.map_none]

theorem eq_of_splitStem {stem id : String} (h : splitStem stem = (id, none)) :
    stem = id ∧ '.' ∉ id.toList := by
  have undotted : '.' ∉ stem.toList := by
    intro hmem
    obtain ⟨front, rest, hstem, hfront⟩ := List.eq_append_cons_of_mem hmem
    unfold splitStem cutAt? at h
    rw [hstem, Text.cut?_of_not_mem hfront] at h
    cases h
  rw [splitStem_of_undotted undotted] at h
  cases h
  exact ⟨rfl, undotted⟩

theorem stemId_stemOf {id : String} (undotted : '.' ∉ id.toList) (version : Option Version) :
    stemId (stemOf id version) = id := by
  unfold stemId stemOf
  cases version with
  | some version => rw [splitStem_append undotted]
  | none => rw [splitStem_of_undotted undotted]

theorem stemId_eq_takeWhile (stem : String) :
    stemId stem = String.ofList (stem.toList.takeWhile (· ≠ '.')) := by
  unfold stemId splitStem cutAt?
  by_cases hdot : '.' ∈ stem.toList
  · obtain ⟨front, rest, hstem, hfront⟩ := List.eq_append_cons_of_mem hdot
    rw [hstem, Text.cut?_of_not_mem hfront, Text.takeWhile_append_of_stop]
    · rfl
    · exact fun c hc => decide_eq_true fun heq => hfront (heq ▸ hc)
    · rintro c ⟨⟩
      decide
  · have hall : ∀ c ∈ stem.toList, decide (c ≠ '.') = true := fun c hc =>
      decide_eq_true fun heq => hdot (heq ▸ hc)
    have htake : (stem.toList ++ []).takeWhile (· ≠ '.') = stem.toList :=
      Text.takeWhile_append_of_stop hall (by simp)
    rw [List.append_nil] at htake
    rw [Text.cut?_eq_none hdot, htake]
    exact String.ofList_toList.symm

namespace Version

/-! ## Order -/

/-- The numbers of a version, compared with the first one first. -/
def numbers (version : Version) : ℕ ×ₗ ℕ ×ₗ ℕ :=
  toLex (version.major, toLex (version.minor, version.patch))

theorem numbers_lt_iff {a b : Version} :
    a.numbers < b.numbers ↔
      a.major < b.major ∨ a.major = b.major ∧
        (a.minor < b.minor ∨ a.minor = b.minor ∧ a.patch < b.patch) := by
  simp only [numbers, Prod.Lex.toLex_lt_toLex]

theorem order_eq_lt_iff {a b : Version} : a.order b = .lt ↔ a.numbers < b.numbers := by
  rw [numbers_lt_iff, order, Ordering.then_eq_lt, Ordering.then_eq_lt]
  simp only [Nat.compare_eq_lt, Nat.compare_eq_eq]

theorem order_swap (a b : Version) : (a.order b).swap = b.order a := by
  simp only [order, Ordering.swap_then, Nat.compare_swap]

theorem order_eq_eq_iff {a b : Version} : a.order b = .eq ↔ a.numbers = b.numbers := by
  simp only [order, Ordering.then_eq_eq, Nat.compare_eq_eq, numbers, toLex_inj, Prod.mk.injEq]

/-- Versions are ordered as their numbers are. -/
theorem order_eq_compare (a b : Version) : a.order b = compare a.numbers b.numbers := by
  cases h : a.order b with
  | lt => exact (compare_lt_iff_lt.2 (order_eq_lt_iff.1 h)).symm
  | eq => exact (compare_eq_iff_eq.2 (order_eq_eq_iff.1 h)).symm
  | gt =>
    have hswap : b.order a = .lt := by rw [← order_swap, h]; rfl
    exact (compare_gt_iff_gt.2 (order_eq_lt_iff.1 hswap)).symm

theorem order_ne_gt_iff {a b : Version} : a.order b ≠ .gt ↔ a.numbers ≤ b.numbers := by
  rw [order_eq_compare, compare_le_iff_le]

theorem same_iff {a b : Version} : a.same b = true ↔ a.order b = .eq := by
  simp [order_eq_eq_iff, same, numbers, and_assoc]

/-! ## Spellings -/

theorem toNat_of_isDigit {c : Char} (h : c.isDigit = true) : 48 ≤ c.toNat ∧ c.toNat ≤ 57 := by
  unfold Char.isDigit at h
  rw [Bool.and_eq_true, decide_eq_true_eq, decide_eq_true_eq] at h
  exact ⟨h.1, h.2⟩

theorem not_isBlank_of_isDigit {c : Char} (h : c.isDigit = true) : Text.isBlank c = false := by
  obtain ⟨hlow, hhigh⟩ := toNat_of_isDigit h
  simp only [Text.isBlank, Text.blankRanges, List.any_cons, List.any_nil, Bool.or_false,
    Bool.or_eq_false_iff, Bool.and_eq_false_iff, decide_eq_false_iff_not]
  omega

theorem ne_of_isDigit {c d : Char} (h : c.isDigit = true) (hd : d.isDigit = false) : c ≠ d := by
  rintro rfl
  rw [h] at hd
  cases hd

/-- Whether a character may stand in a tag behind its first one. -/
def isTagChar (c : Char) : Bool :=
  c == '_' || c == '+' || c.isDigit

/-- Whether a version is spelled by its tag: a `v` with digits, underscores and plus signs. -/
def IsTag (raw : String) : Prop :=
  ∃ body, raw = String.ofList ('v' :: body) ∧ ∀ c ∈ body, isTagChar c = true

theorem isTagChar_iff {c : Char} : isTagChar c = true ↔ c = '_' ∨ c = '+' ∨ c.isDigit = true := by
  simp [isTagChar, or_assoc]

/-- Nothing is left out of a tag. -/
theorem tagBody_of_isTagChar {body : List Char} (h : ∀ c ∈ body, isTagChar c = true) :
    tagBody ('v' :: body) = body := by
  have nonblank : ∀ c ∈ 'v' :: body, Text.isBlank c = false := by
    intro c hc
    rcases List.mem_cons.1 hc with rfl | hc
    · decide
    · rcases isTagChar_iff.1 (h c hc) with rfl | rfl | hdigit
      · decide
      · decide
      · exact not_isBlank_of_isDigit hdigit
  unfold tagBody
  rw [Text.trim, Text.trimBy_of_forall nonblank]
  -- a dot would be read as an underscore
  refine (List.map_congr_left fun c hc => if_neg ?_).trans (List.map_id' body)
  rcases isTagChar_iff.1 (h c hc) with rfl | rfl | hdigit
  · decide
  · decide
  · exact ne_of_isDigit hdigit (by decide)

/-- A tag is read as it stands. -/
theorem parse?_of_isTagChar {body : List Char} (h : ∀ c ∈ body, isTagChar c = true) :
    parse? (String.ofList ('v' :: body)) = ofBody? body := by
  unfold parse?
  rw [String.toList_ofList, tagBody_of_isTagChar h]

theorem tag_of_ofBody? {body : List Char} {version : Version} (h : ofBody? body = some version) :
    version.tag = String.ofList ('v' :: body) := by
  unfold ofBody? at h
  split at h <;> cases h <;> rfl

theorem isSome_part?_of_ofBody? {body part : List Char} {version : Version}
    (h : ofBody? body = some version) (hpart : part ∈ Text.parts '_' body) :
    (part? part).isSome := by
  have hmem := List.mem_map_of_mem (f := part?) hpart
  unfold ofBody? at h
  split at h
  case h_4 => cases h
  all_goals
    next hnumbers =>
      rw [hnumbers] at hmem
      simp only [List.mem_cons, List.not_mem_nil, or_false] at hmem
      grind

theorem isTagChar_of_part? {part : List Char} (h : (part? part).isSome) :
    ∀ c ∈ part, isTagChar c = true := by
  have isDigit : ∀ digits : List Char,
      (if digits.isEmpty || !digits.all Char.isDigit then none
        else if number digits < Nat.pow 2 64 then some (number digits) else none).isSome →
        ∀ c ∈ digits, isTagChar c = true := by
    intro digits hsome c hc
    split at hsome
    · cases hsome
    · next hdigits =>
      rw [Bool.or_eq_true, not_or, Bool.not_eq_true', Bool.not_eq_false] at hdigits
      exact isTagChar_iff.2 (Or.inr (Or.inr (List.all_eq_true.1 hdigits.2 c hc)))
  unfold part? at h
  split at h
  · exact List.forall_mem_cons.2 ⟨rfl, isDigit _ h⟩
  · exact isDigit _ h

theorem isTagChar_of_ofBody? {body : List Char} {version : Version}
    (h : ofBody? body = some version) : ∀ c ∈ body, isTagChar c = true := by
  intro c hc
  have hparts : c = '_' ∨ ∃ part ∈ Text.parts '_' body, c ∈ part := Text.mem_of_mem_parts hc
  rcases hparts with rfl | ⟨part, hpart, hmem⟩
  · rfl
  · exact isTagChar_of_part? (isSome_part?_of_ofBody? h hpart) c hmem

/-- A version is read from its tag, and this is the only spelling of it that is a tag. -/
theorem parse?_tag {raw : String} {version : Version} (h : parse? raw = some version) :
    parse? version.tag = some version ∧ (raw = version.tag ↔ IsTag raw) := by
  unfold parse? at h
  have htag := tag_of_ofBody? h
  have hchars := isTagChar_of_ofBody? h
  refine ⟨?_, fun heq => ?_, ?_⟩
  · rw [htag, parse?_of_isTagChar hchars, h]
  · exact ⟨_, heq.trans htag, hchars⟩
  · rintro ⟨body, rfl, hbody⟩
    rw [htag, String.toList_ofList, tagBody_of_isTagChar hbody]

/-! ## Full tags -/

/-- Whether characters are a decimal number that fits into 64 bits. -/
structure IsNumber (digits : List Char) : Prop where
  nonempty : digits ≠ []
  isDigit : ∀ c ∈ digits, c.isDigit = true
  fits : number digits < Nat.pow 2 64

/-- Whether the tag of a version spells its numbers, two or three of them. -/
inductive Spelled : Version → Prop where
  | two {major minor : List Char} (hmajor : IsNumber major) (hminor : IsNumber minor) :
      Spelled ⟨String.ofList ('v' :: (major ++ '_' :: minor)), number major, number minor, 0⟩
  | three {major minor patch : List Char} (hmajor : IsNumber major) (hminor : IsNumber minor)
      (hpatch : IsNumber patch) :
      Spelled ⟨String.ofList ('v' :: (major ++ '_' :: (minor ++ '_' :: patch))), number major,
        number minor, number patch⟩

theorem IsNumber.not_mem {digits : List Char} (h : IsNumber digits) {c : Char}
    (hc : c.isDigit = false) : c ∉ digits := fun hmem =>
  ne_of_isDigit (h.isDigit c hmem) hc rfl

/-- Digits are read as their number, if it fits. -/
theorem part?_of_digits {digits : List Char} (nonempty : digits ≠ [])
    (isDigit : ∀ c ∈ digits, c.isDigit = true) :
    part? digits = if number digits < Nat.pow 2 64 then some (number digits) else none := by
  have hempty : digits.isEmpty = false := by simpa using nonempty
  have hall : digits.all Char.isDigit = true := List.all_eq_true.2 isDigit
  unfold part?
  split
  · next rest => exact absurd (isDigit '+' List.mem_cons_self) (by decide)
  · refine if_neg ?_
    rw [hempty, hall]
    decide

theorem IsNumber.part?_eq {digits : List Char} (h : IsNumber digits) :
    part? digits = some (number digits) :=
  (part?_of_digits h.nonempty h.isDigit).trans (if_pos h.fits)

theorem isNumber_of_part? {digits : List Char} {n : Nat} (nonempty : digits ≠ [])
    (isDigit : ∀ c ∈ digits, c.isDigit = true) (h : part? digits = some n) :
    IsNumber digits ∧ number digits = n := by
  rw [part?_of_digits nonempty isDigit] at h
  obtain ⟨fits, heq⟩ := Option.ite_none_right_eq_some.1 h
  exact ⟨⟨nonempty, isDigit, fits⟩, Option.some.inj heq⟩

/-- A tag of digits and underscores is read as it stands. -/
theorem parse?_of_digits {body : List Char}
    (isDigit : ∀ part ∈ Text.parts '_' body, ∀ c ∈ part, c.isDigit = true) :
    parse? (String.ofList ('v' :: body)) = ofBody? body := by
  refine parse?_of_isTagChar fun c hc => isTagChar_iff.2 ?_
  refine (Text.mem_of_mem_parts hc).imp_right ?_
  rintro ⟨part, hpart, hmem⟩
  exact Or.inr (isDigit part hpart c hmem)

/-- The parts of a full tag. -/
theorem isFullTag_iff {tag : String} :
    Assets.isFullTag tag = true ↔ ∃ body, tag = String.ofList ('v' :: body) ∧
      ((Text.parts '_' body).length = 2 ∨ (Text.parts '_' body).length = 3) ∧
      ∀ part ∈ Text.parts '_' body, part ≠ [] ∧ ∀ c ∈ part, c.isDigit = true := by
  unfold Assets.isFullTag
  constructor
  · intro h
    split at h
    · next body hbody =>
      refine ⟨body.toList, ?_, ?_⟩
      · apply String.toList_injective
        rw [textAfter?_eq_some_iff.1 hbody]
        simp
      · simpa [List.all_eq_true] using h
    · cases h
  · rintro ⟨body, rfl, hlength, hparts⟩
    have hbody : textAfter? "v" (String.ofList ('v' :: body)) = some (String.ofList body) := by
      rw [textAfter?_eq_some_iff]
      apply String.toList_injective
      simp
    rw [hbody]
    simpa [List.all_eq_true] using ⟨hlength, hparts⟩

theorem IsNumber.parts_two {major minor : List Char} (hmajor : IsNumber major)
    (hminor : IsNumber minor) : Text.parts '_' (major ++ '_' :: minor) = [major, minor] := by
  rw [Text.parts_append, Text.parts_of_not_mem (hmajor.not_mem (by decide)),
    Text.parts_of_not_mem (hminor.not_mem (by decide))]
  rfl

theorem IsNumber.parts_three {major minor patch : List Char} (hmajor : IsNumber major)
    (hminor : IsNumber minor) (hpatch : IsNumber patch) :
    Text.parts '_' (major ++ '_' :: (minor ++ '_' :: patch)) = [major, minor, patch] := by
  rw [Text.parts_append, Text.parts_of_not_mem (hmajor.not_mem (by decide)),
    hminor.parts_two hpatch]
  rfl

/-- A version that spells its numbers is read from its tag. -/
theorem Spelled.fullTag {version : Version} (h : Spelled version) :
    Assets.isFullTag version.tag = true ∧ parse? version.tag = some version := by
  cases h with
  | two hmajor hminor =>
    have hparts := hmajor.parts_two hminor
    refine ⟨isFullTag_iff.2 ⟨_, rfl, ?_, ?_⟩, ?_⟩
    · simp [hparts]
    · simpa [hparts] using ⟨⟨hmajor.nonempty, hmajor.isDigit⟩, hminor.nonempty, hminor.isDigit⟩
    · rw [parse?_of_digits]
      · simp only [ofBody?, hparts, List.map_cons, List.map_nil, hmajor.part?_eq, hminor.part?_eq]
      · simpa [hparts] using ⟨hmajor.isDigit, hminor.isDigit⟩
  | three hmajor hminor hpatch =>
    have hparts := hmajor.parts_three hminor hpatch
    refine ⟨isFullTag_iff.2 ⟨_, rfl, ?_, ?_⟩, ?_⟩
    · simp [hparts]
    · simpa [hparts] using ⟨⟨hmajor.nonempty, hmajor.isDigit⟩,
        ⟨hminor.nonempty, hminor.isDigit⟩, hpatch.nonempty, hpatch.isDigit⟩
    · rw [parse?_of_digits]
      · simp only [ofBody?, hparts, List.map_cons, List.map_nil, hmajor.part?_eq, hminor.part?_eq,
          hpatch.part?_eq]
      · simpa [hparts] using ⟨hmajor.isDigit, hminor.isDigit, hpatch.isDigit⟩

theorem spelled_of_parts_two {body major minor : List Char} {version : Version}
    (hparts : Text.parts '_' body = [major, minor])
    (digits : ∀ part ∈ [major, minor], part ≠ [] ∧ ∀ c ∈ part, c.isDigit = true)
    (h : ofBody? body = some version) :
    Spelled version ∧ version.tag = String.ofList ('v' :: body) := by
  simp only [List.forall_mem_cons] at digits
  obtain ⟨⟨nonempty, isDigit⟩, ⟨nonempty', isDigit'⟩, -⟩ := digits
  have hbody := Text.intercalate_parts '_' body
  rw [hparts] at hbody
  obtain rfl : body = major ++ '_' :: minor := by simpa using hbody.symm
  simp only [ofBody?, hparts, List.map_cons, List.map_nil] at h
  split at h
  · next heq => simp at heq
  · next first second heq =>
    simp only [List.cons.injEq] at heq
    obtain ⟨hmajor, rfl⟩ := isNumber_of_part? nonempty isDigit heq.1
    obtain ⟨hminor, rfl⟩ := isNumber_of_part? nonempty' isDigit' heq.2.1
    cases h
    exact ⟨.two hmajor hminor, rfl⟩
  · next heq => simp at heq
  · cases h

theorem spelled_of_parts_three {body major minor patch : List Char} {version : Version}
    (hparts : Text.parts '_' body = [major, minor, patch])
    (digits : ∀ part ∈ [major, minor, patch], part ≠ [] ∧ ∀ c ∈ part, c.isDigit = true)
    (h : ofBody? body = some version) :
    Spelled version ∧ version.tag = String.ofList ('v' :: body) := by
  simp only [List.forall_mem_cons] at digits
  obtain ⟨⟨nonempty, isDigit⟩, ⟨nonempty', isDigit'⟩, ⟨nonempty'', isDigit''⟩, -⟩ := digits
  have hbody := Text.intercalate_parts '_' body
  rw [hparts] at hbody
  obtain rfl : body = major ++ '_' :: (minor ++ '_' :: patch) := by simpa using hbody.symm
  simp only [ofBody?, hparts, List.map_cons, List.map_nil] at h
  split at h
  · next heq => simp at heq
  · next heq => simp at heq
  · next first second third heq =>
    simp only [List.cons.injEq] at heq
    obtain ⟨hmajor, rfl⟩ := isNumber_of_part? nonempty isDigit heq.1
    obtain ⟨hminor, rfl⟩ := isNumber_of_part? nonempty' isDigit' heq.2.1
    obtain ⟨hpatch, rfl⟩ := isNumber_of_part? nonempty'' isDigit'' heq.2.2.1
    cases h
    exact ⟨.three hmajor hminor hpatch, rfl⟩
  · cases h

/-- What is read from a full tag spells its numbers in this tag. -/
theorem spelled_of_fullTag {tag : String} {version : Version}
    (full : Assets.isFullTag tag = true) (h : parse? tag = some version) :
    Spelled version ∧ version.tag = tag := by
  obtain ⟨body, rfl, hlength, digits⟩ := isFullTag_iff.1 full
  rw [parse?_of_digits fun part hpart => (digits part hpart).2] at h
  rcases hlength with hlength | hlength
  · obtain ⟨major, minor, hparts⟩ := List.length_eq_two.1 hlength
    exact spelled_of_parts_two hparts (hparts ▸ digits) h
  · obtain ⟨major, minor, patch, hparts⟩ := List.length_eq_three.1 hlength
    exact spelled_of_parts_three hparts (hparts ▸ digits) h

end Version

end ResourceModel

import ResourceModel.Proofs.Text
import ResourceModel.Url.Resolve

set_option autoImplicit false

/-! # Plain references

A reference without blanks, escapes and schemes of its own leads to the segment that stands last in
its path, and to its fragment as it is written. -/

namespace ResourceModel.Url

variable {text front name rest : List Char}

/-! ## Characters that are kept -/

theorem trimmed_of_forall (visible : ∀ c ∈ text, 0x20 < c.toNat) : trimmed text = text :=
  Text.trimBy_of_forall fun c hc => decide_eq_false (Nat.not_le.2 (visible c hc))

theorem clean_of_forall (visible : ∀ c ∈ text, 0x20 < c.toNat) : clean text = text := by
  have kept : ∀ c ∈ text, isIgnored c = false := by
    intro c hc
    have hc := visible c hc
    simp only [isIgnored, Bool.or_eq_false_iff, decide_eq_false_iff_not]
    refine ⟨⟨?_, ?_⟩, ?_⟩ <;> rintro rfl <;> exact absurd hc (by decide)
  exact List.filter_eq_self.2 fun c hc => by rw [kept c hc, Bool.not_false]

theorem encode_of_forall {plain : Char → Bool} (h : ∀ c ∈ text, plain c = true) :
    encode plain text = text := by
  have hchars : ∀ c ∈ text, encodeChar plain c = [c] := fun c hc => if_pos (h c hc)
  rw [encode, List.flatMap_congr hchars]
  exact List.flatMap_singleton' text

/-! ## Fragments -/

theorem fragment_of_not_mem (h : '#' ∉ text) : fragment text = [] := by
  rw [fragment, Text.cut?_eq_none h]

theorem fragment_append (h : '#' ∉ text) (plain : ∀ c ∈ rest, isFragmentPlain c = true) :
    fragment (text ++ '#' :: rest) = rest := by
  rw [fragment, Text.cut?_of_not_mem h]
  exact encode_of_forall plain

/-! ## Last segments -/

/-- A text that is a segment of a path as it stands. -/
structure Segment (name : List Char) : Prop where
  plain : ∀ c ∈ name, isPathPlain c = true
  whole : ∀ c ∈ name, isSeparator .web c = false
  not_dots : isDotSegment name = false

theorem not_endsPath_of_isPathPlain {c : Char} (h : isPathPlain c = true) : endsPath c = false := by
  simp only [isPathPlain, Bool.and_eq_true, decide_eq_true_eq] at h
  simp only [endsPath, Bool.or_eq_false_iff, decide_eq_false_iff_not]
  exact ⟨h.1.1.2, h.1.1.1.2⟩

theorem lastSegment_append (hname : Segment name) (within : ∀ c ∈ front, endsPath c = false)
    (closed : ∀ c ∈ front.getLast?, c = '/') (ends : ∀ c ∈ rest.head?, endsPath c = true) :
    lastSegment .web (front ++ (name ++ rest)) = name := by
  have hpath : (front ++ (name ++ rest)).takeWhile (fun c => !endsPath c) = front ++ name := by
    rw [← List.append_assoc, Text.takeWhile_append_of_stop]
    · intro c hc
      rw [Bool.not_eq_true']
      rcases List.mem_append.1 hc with hc | hc
      · exact within c hc
      · exact not_endsPath_of_isPathPlain (hname.plain c hc)
    · exact fun c hc => by rw [ends c hc, Bool.not_true]
  have hlast : lastPart .web (front ++ name) = name := by
    refine Text.reverse_takeWhile_reverse (fun c hc => ?_) fun c hc => ?_
    · rw [hname.whole c hc, Bool.not_false]
    · rw [closed c hc]
      decide
  unfold lastSegment
  rw [hpath, hlast, encode_of_forall hname.plain, if_neg (by simp [hname.not_dots])]

/-! ## Schemes -/

theorem scheme?_of_not_mem (h : ':' ∉ text) : scheme? text = none := by
  cases text with
  | nil => rfl
  | cons c text =>
    have hcolon : ':' ∉ text := List.not_mem_of_not_mem_cons h
    simp only [scheme?]
    split
    · split
      · next after hafter =>
        exact absurd ((List.dropWhile_suffix _).subset (hafter ▸ List.mem_cons_self)) hcolon
      · rfl
    · rfl

theorem scheme?_http (rest : List Char) : scheme? ("http:".toList ++ rest) = some ("http", rest) :=
  rfl

/-! ## Hosts -/

/-- Whether a character belongs to the host wherever it stands behind the slashes of an address. -/
def isHostChar (c : Char) : Bool :=
  !endsAuthority .web c && c ≠ ':' && c ≠ '@' && c ≠ '[' && c ≠ ']'

theorem userAndRest?_of_host (plain : ∀ c ∈ name, isHostChar c = true) :
    userAndRest? .web (name ++ '/' :: rest) = some ([], name ++ '/' :: rest) := by
  have hauthority : (name ++ '/' :: rest).takeWhile (fun c => !endsAuthority .web c) = name := by
    refine Text.takeWhile_append_of_stop (fun c hc => ?_) fun c hc => ?_
    · have hc := plain c hc
      simp only [isHostChar, Bool.and_eq_true] at hc
      exact hc.1.1.1.1
    · cases hc
      decide
  have hat : name.contains '@' = false := by
    rw [List.contains_eq_mem, decide_eq_false_iff_not]
    exact fun hmem => absurd (plain '@' hmem) (by decide)
  simp only [userAndRest?, hauthority, hat, Bool.false_eq_true, if_false]

theorem hostAndRest_of_host (plain : ∀ c ∈ name, isHostChar c = true) :
    hostAndRest .web false (name ++ '/' :: rest) = (name, '/' :: rest) := by
  induction name with
  | nil => rfl
  | cons c name ih =>
    obtain ⟨hc, plain⟩ := List.forall_mem_cons.1 plain
    simp only [isHostChar, Bool.and_eq_true, Bool.not_eq_true', decide_eq_true_eq] at hc
    obtain ⟨⟨⟨⟨hends, hcolon⟩, -⟩, hopens⟩, hcloses⟩ := hc
    -- no bracket is open, so a colon would end the host here
    have hstays : ¬ ((decide (c = ':') && !false || endsAuthority .web c) = true) := by
      simp [hcolon, hends]
    rw [List.cons_append, hostAndRest, if_neg hstays, if_neg hopens, if_neg hcloses]
    simp only [ih plain]

theorem hostTarget?_of_host (host : isHost name = true) (plain : ∀ c ∈ name, isHostChar c = true)
    (whole : List Char) :
    hostTarget? .web whole (name ++ '/' :: rest) =
      some ⟨lastSegment .web ('/' :: rest), fragment whole⟩ := by
  have hafter : afterAuthority? .web (name ++ '/' :: rest) = some ('/' :: rest) := by
    simp only [afterAuthority?, userAndRest?_of_host plain, Option.bind_eq_bind, Option.bind_some,
      hostAndRest_of_host plain, reduceCtorEq, if_false, host, if_true]
    rfl
  rw [hostTarget?, hafter]
  rfl

/-! ## References -/

theorem resolve?_of_schemeless (visible : ∀ c ∈ text, 0x20 < c.toNat)
    (schemeless : scheme? text = none) : resolve? text = relativeTarget? text text := by
  simp only [resolve?, trimmed_of_forall visible, clean_of_forall visible, schemeless]

theorem resolve?_of_http (visible : ∀ c ∈ text, 0x20 < c.toNat)
    (scheme : scheme? text = some ("http", rest)) {slashes : List Char}
    (hslashes : rest.takeWhile (fun c => c = '/' || c = '\\') = slashes) (two : 2 ≤ slashes.length) :
    resolve? text = hostTarget? .web text (rest.drop slashes.length) := by
  have hscheme : schemeOf "http" = .web := rfl
  simp only [resolve?, trimmed_of_forall visible, clean_of_forall visible, scheme, hscheme, hslashes]
  exact if_neg fun h => absurd h.1 (Nat.not_lt.2 two)

/-- A reference that starts with its file name leads to it. -/
theorem resolve?_relative (hname : Segment name) (nonempty : name ≠ [])
    (visible : ∀ c ∈ name ++ rest, 0x20 < c.toNat) (schemeless : ':' ∉ name ++ rest)
    (ends : ∀ c ∈ rest.head?, endsPath c = true) :
    resolve? (name ++ rest) = some ⟨name, fragment (name ++ rest)⟩ := by
  have hslashes : (name ++ rest).takeWhile (fun c => c = '/' || c = '\\') = [] := by
    obtain ⟨c, name, rfl⟩ := List.exists_cons_of_ne_nil nonempty
    have hc := hname.whole c List.mem_cons_self
    simp only [isSeparator, Bool.or_eq_false_iff, decide_eq_false_iff_not, Bool.and_eq_false_iff,
      ne_eq, reduceCtorEq, not_false_eq_true, not_true_eq_false, or_false] at hc
    simp [hc.1, hc.2]
  have hlast : lastSegment .web ([] ++ (name ++ rest)) = name :=
    lastSegment_append hname (by simp) (by simp) ends
  rw [List.nil_append] at hlast
  rw [resolve?_of_schemeless visible (scheme?_of_not_mem schemeless)]
  simp only [relativeTarget?, hslashes, hlast]
  exact if_neg (by decide)

/-- The path between the host of an address and its file name. -/
structure Directory (path : List Char) : Prop where
  within : ∀ c ∈ path, endsPath c = false
  closed : path.getLast? = some '/'

/-- An address leads to the file name that stands last in its path. -/
theorem resolve?_http {host path : List Char} (isHost : Url.isHost host = true)
    (plain : ∀ c ∈ host, isHostChar c = true) (directory : Directory ('/' :: path))
    (hname : Segment name) (ends : ∀ c ∈ rest.head?, endsPath c = true)
    (htext : text = "http:".toList ++ '/' :: '/' :: (host ++ '/' :: (path ++ (name ++ rest))))
    (visible : ∀ c ∈ text, 0x20 < c.toNat) :
    resolve? text = some ⟨name, fragment text⟩ := by
  have hslashes : ('/' :: '/' :: (host ++ '/' :: (path ++ (name ++ rest)))).takeWhile
      (fun c => c = '/' || c = '\\') = ['/', '/'] := by
    obtain ⟨c, host, rfl⟩ : ∃ c others, host = c :: others := by
      refine List.exists_cons_of_ne_nil ?_
      rintro rfl
      exact absurd isHost (by decide +kernel)
    have hc := plain c List.mem_cons_self
    have hslash : c ≠ '/' := fun heq => absurd (heq ▸ hc) (by decide)
    have hback : c ≠ '\\' := fun heq => absurd (heq ▸ hc) (by decide)
    simp [hslash, hback]
  have hclosed : ∀ c ∈ ('/' :: path).getLast?, c = '/' := fun c hc =>
    Option.some.inj (hc.symm.trans directory.closed)
  have hlast := lastSegment_append hname directory.within hclosed ends
  have hscheme := scheme?_http ('/' :: '/' :: (host ++ '/' :: (path ++ (name ++ rest))))
  rw [← htext] at hscheme
  rw [resolve?_of_http visible hscheme hslashes (le_refl _)]
  exact (hostTarget?_of_host isHost plain text).trans (by rw [← List.cons_append, hlast])

end ResourceModel.Url

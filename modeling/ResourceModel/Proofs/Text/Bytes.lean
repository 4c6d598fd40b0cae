set_option autoImplicit false

/-! # Texts as bytes

A text is kept as the bytes of its characters, one after the other. A character with a greater code
has the greater bytes, so texts stand in the order of their bytes. -/

namespace ResourceModel.Text

/-- The bytes of a text. -/
def bytes (text : String) : List UInt8 :=
  text.toUTF8.data.toList

theorem bytes_eq (text : String) : bytes text = text.toList.flatMap String.utf8EncodeChar := by
  unfold bytes
  rw [String.toUTF8_eq_toByteArray, ← String.utf8Encode_toList]
  simp [List.utf8Encode]

/-! ## The order of the bytes -/

theorem cons_lt_cons {first second : UInt8} {rest further : List UInt8} :
    first :: rest < second :: further ↔
      first.toNat < second.toNat ∨ first.toNat = second.toNat ∧ rest < further := by
  rw [List.cons_lt_cons_iff, UInt8.lt_iff_toNat_lt, UInt8.toNat_inj]

theorem toNat_lt (c : Char) : c.val.toNat < 0x110000 := by
  have hvalid := c.valid
  simp only [UInt32.isValidChar, Nat.isValidChar] at hvalid
  omega

/-- The bytes of a character with a greater code are greater, whatever follows. -/
theorem utf8EncodeChar_append_lt {c d : Char} (h : c < d) (rest further : List UInt8) :
    String.utf8EncodeChar c ++ rest < String.utf8EncodeChar d ++ further := by
  have hlt : c.val.toNat < d.val.toNat := UInt32.lt_iff_toNat_lt.1 (Char.lt_def.1 h)
  have hbound := toNat_lt d
  unfold String.utf8EncodeChar
  generalize c.val.toNat = v at hlt ⊢
  generalize d.val.toNat = w at hlt hbound ⊢
  have tail : ∀ n, (n % 64 + 128) % 256 = n % 64 + 128 := by omega
  have second : ∀ n, (n % 32 + 192) % 256 = n % 32 + 192 := by omega
  have third : ∀ n, (n % 16 + 224) % 256 = n % 16 + 224 := by omega
  have fourth : ∀ n, (n % 8 + 240) % 256 = n % 8 + 240 := by omega
  have steps : ∀ n, n / 4096 = n / 64 / 64 ∧ n / 262144 = n / 64 / 64 / 64 := by omega
  simp only [steps]
  -- a case for each two numbers of bytes
  repeat' split
  all_goals simp only [List.cons_append, List.nil_append, cons_lt_cons, UInt8.toNat_ofNat', tail,
    second, third, fourth, Nat.reducePow]
  all_goals omega

theorem flatMap_utf8EncodeChar_lt {first second : List Char} (h : first < second) :
    first.flatMap String.utf8EncodeChar < second.flatMap String.utf8EncodeChar := by
  induction first generalizing second with
  | nil =>
    cases second with
    | nil => exact absurd h (List.lt_irrefl [])
    | cons d further =>
      have hlength : 0 < (String.utf8EncodeChar d).length := by
        rw [String.length_utf8EncodeChar]
        exact Char.utf8Size_pos d
      obtain ⟨byte, others, hbytes⟩ := List.exists_cons_of_length_pos hlength
      rw [List.flatMap_cons, hbytes]
      exact List.nil_lt_cons _ _
  | cons c rest ih =>
    cases second with
    | nil => exact absurd h (List.not_lt_nil _)
    | cons d further =>
      rw [List.flatMap_cons, List.flatMap_cons]
      rcases List.cons_lt_cons_iff.1 h with hlt | ⟨rfl, hrest⟩
      · exact utf8EncodeChar_append_lt hlt _ _
      · exact List.append_left_lt (ih hrest)

/-- Texts are in the order of their bytes. -/
theorem bytes_lt_iff {first second : String} : bytes first < bytes second ↔ first < second := by
  have forward : ∀ {first second : String}, first < second → bytes first < bytes second := by
    intro first second h
    rw [bytes_eq, bytes_eq]
    exact flatMap_utf8EncodeChar_lt h
  refine ⟨fun h => ?_, forward⟩
  by_cases hlt : first < second
  · exact hlt
  · exfalso
    by_cases heq : second = first
    · rw [heq] at h
      exact List.lt_irrefl _ h
    · have hback := forward (Std.lt_of_le_of_ne (String.not_lt.1 hlt) heq)
      exact List.lt_asymm h hback

/-! ## Cutting at a byte -/

/-- What a text holds from a byte on; none where no character begins with the byte. -/
def fromByte? (text : String) (start : Nat) : Option String :=
  if start ≤ text.utf8ByteSize then
    String.fromUTF8? (text.toUTF8.extract start text.utf8ByteSize)
  else none

theorem fromByte?_append {first : String} {size : Nat} (h : first.utf8ByteSize = size)
    (second : String) : fromByte? (first ++ second) size = some second := by
  subst h
  have hcut : (first ++ second).toUTF8.extract first.utf8ByteSize (first ++ second).utf8ByteSize =
      second.toUTF8 := by
    rw [String.toUTF8_eq_toByteArray, String.toUTF8_eq_toByteArray, String.toByteArray_append]
    exact ByteArray.extract_append_eq_right rfl (by simp)
  unfold fromByte?
  rw [hcut, if_pos (by simp)]
  unfold String.fromUTF8?
  rw [dif_pos (by rw [String.toUTF8_eq_toByteArray]; exact second.isValidUTF8)]
  rfl

/-- A text of characters with one byte each has as many bytes as characters. -/
theorem utf8ByteSize_of_narrow {text : String} (h : ∀ c ∈ text.toList, c.utf8Size = 1) :
    text.utf8ByteSize = text.toList.length := by
  have hbytes : text.utf8ByteSize = (bytes text).length := by
    unfold bytes
    rw [String.toUTF8_eq_toByteArray]
    simp
  rw [hbytes, bytes_eq]
  generalize text.toList = chars at h
  induction chars with
  | nil => rfl
  | cons c rest ih =>
    obtain ⟨hc, hrest⟩ := List.forall_mem_cons.1 h
    rw [List.flatMap_cons, List.length_append, String.length_utf8EncodeChar, hc, ih hrest,
      List.length_cons, Nat.add_comm]

end ResourceModel.Text

import LogTemplate.Text.Utf8

/-!
# Texts from their bytes

Main statement: the bytes of a text are read as that text.
-/

namespace LogTemplate.Text.Utf8

/-- The byte that carries the lowest six bits of a number in a character. -/
def tailOf (n : Nat) : UInt8 := .ofNat (n % 0x40 + 0x80)

theorem toNat_tailOf (n : Nat) : (tailOf n).toNat = n % 0x40 + 0x80 := by
  rw [tailOf, UInt8.toNat_ofNat']
  exact Nat.mod_eq_of_lt (by omega)

theorem isTail_tailOf (n : Nat) : isTail (tailOf n) = true := by
  have low : (0x80 : UInt8).toNat = 0x80 := rfl
  have high : (0xBF : UInt8).toNat = 0xBF := rfl
  simp only [isTail, Bool.and_eq_true, decide_eq_true_eq, UInt8.le_iff_toNat_le, toNat_tailOf]
  omega

theorem payload_tailOf (n : Nat) : payload (tailOf n) = n % 0x40 := by
  rw [payload, toNat_tailOf]
  omega

theorem continueWith_tailOf (owed taken code n : Nat) (rest : List UInt8) :
    continueWith (owed + 1) taken code (tailOf n :: rest) =
      continueWith owed (taken + 1) (code * 0x40 + n % 0x40) rest := by
  rw [continueWith, if_pos (isTail_tailOf n), payload_tailOf]

theorem secondWithin_tailOf {low high : UInt8} {owed code n : Nat} {rest : List UInt8}
    (above : low.toNat ≤ n % 0x40 + 0x80) (below : n % 0x40 + 0x80 ≤ high.toNat) :
    secondWithin low high owed code (tailOf n :: rest) =
      continueWith owed 1 (code * 0x40 + n % 0x40) rest := by
  have within : (decide (low ≤ tailOf n) && decide (tailOf n ≤ high)) = true := by
    simp only [Bool.and_eq_true, decide_eq_true_eq, UInt8.le_iff_toNat_le, toNat_tailOf]
    exact ⟨above, below⟩
  rw [secondWithin, if_pos within, payload_tailOf]

/-- The code point of a character is below the surrogates, or above them and not too great. -/
theorem toNat_valid (c : Char) :
    c.toNat < 0xD800 ∨ 0xDFFF < c.toNat ∧ c.toNat < 0x110000 := c.valid

theorem encodeChar_eq (c : Char) :
    String.utf8EncodeChar c =
      if c.toNat ≤ 0x7F then [.ofNat c.toNat]
      else if c.toNat ≤ 0x7FF then [.ofNat (c.toNat / 0x40 % 0x20 + 0xC0), tailOf c.toNat]
      else if c.toNat ≤ 0xFFFF then
        [.ofNat (c.toNat / 0x1000 % 0x10 + 0xE0), tailOf (c.toNat / 0x40), tailOf c.toNat]
      else [.ofNat (c.toNat / 0x40000 % 8 + 0xF0), tailOf (c.toNat / 0x1000),
        tailOf (c.toNat / 0x40), tailOf c.toNat] := rfl

/-- A character of ASCII is one byte. -/
theorem exists_byte_of_ascii {c : Char} (bounds : 0 < c.toNat ∧ c.toNat < 0x80) :
    ∃ b : UInt8, String.utf8EncodeChar c = [b] ∧ b ≠ 0 ∧ b.toNat < 0x80 := by
  have value : (UInt8.ofNat c.toNat).toNat = c.toNat := by
    rw [UInt8.toNat_ofNat']
    omega
  refine ⟨.ofNat c.toNat, ?_, ?_, by omega⟩
  · rw [encodeChar_eq, if_pos (by omega)]
  · intro zero
    rw [zero] at value
    exact absurd value (Nat.ne_of_lt bounds.1)

theorem front_two {n : Nat} (low : 0x7F < n) (high : n ≤ 0x7FF) (rest : List UInt8) :
    front (.ofNat (n / 0x40 % 0x20 + 0xC0)) (tailOf n :: rest) = ⟨1, .ok n⟩ := by
  have first : (UInt8.ofNat (n / 0x40 % 0x20 + 0xC0)).toNat = n / 0x40 + 0xC0 := by
    rw [UInt8.toNat_ofNat']
    omega
  have bounds : (0x80 : UInt8).toNat = 0x80 ∧ (0xBF : UInt8).toNat = 0xBF := ⟨rfl, rfl⟩
  have code : (n / 0x40 + 0xC0 - 0xC0) * 0x40 + n % 0x40 = n := by omega
  rw [front, first, if_neg (by omega), if_neg (by omega), if_pos (by omega),
    secondWithin_tailOf (by omega) (by omega), continueWith, code]

/-- The lowest and the surrogates' first byte narrow what the second one may be. -/
theorem front_three {n : Nat} (low : 0x7FF < n) (high : n ≤ 0xFFFF)
    (valid : n < 0xD800 ∨ 0xDFFF < n) (rest : List UInt8) :
    front (.ofNat (n / 0x1000 % 0x10 + 0xE0)) (tailOf (n / 0x40) :: tailOf n :: rest) =
      ⟨2, .ok n⟩ := by
  have first : (UInt8.ofNat (n / 0x1000 % 0x10 + 0xE0)).toNat = n / 0x1000 + 0xE0 := by
    rw [UInt8.toNat_ofNat']
    omega
  have bounds : (0x80 : UInt8).toNat = 0x80 ∧ (0xA0 : UInt8).toNat = 0xA0
      ∧ (0x9F : UInt8).toNat = 0x9F ∧ (0xBF : UInt8).toNat = 0xBF := ⟨rfl, rfl, rfl, rfl⟩
  have read : ∀ {least most : UInt8} {code : Nat}, code = n / 0x1000 →
      least.toNat ≤ n / 0x40 % 0x40 + 0x80 → n / 0x40 % 0x40 + 0x80 ≤ most.toNat →
      secondWithin least most 1 code (tailOf (n / 0x40) :: tailOf n :: rest) = ⟨2, .ok n⟩ := by
    intro least most code top above below
    have whole : (code * 0x40 + n / 0x40 % 0x40) * 0x40 + n % 0x40 = n := by omega
    rw [secondWithin_tailOf above below, continueWith_tailOf, continueWith, whole]
  rw [front, first, if_neg (by omega), if_neg (by omega), if_neg (by omega)]
  by_cases lowest : n / 0x1000 + 0xE0 = 0xE0
  · rw [if_pos lowest]
    exact read (by omega) (by omega) (by omega)
  rw [if_neg lowest]
  by_cases surrogate : n / 0x1000 + 0xE0 = 0xED
  · rw [if_pos surrogate]
    exact read (by omega) (by omega) (by omega)
  rw [if_neg surrogate, if_pos (by omega)]
  exact read (by omega) (by omega) (by omega)

/-- The lowest and the greatest first byte narrow what the second one may be. -/
theorem front_four {n : Nat} (low : 0xFFFF < n) (high : n < 0x110000) (rest : List UInt8) :
    front (.ofNat (n / 0x40000 % 8 + 0xF0))
        (tailOf (n / 0x1000) :: tailOf (n / 0x40) :: tailOf n :: rest) = ⟨3, .ok n⟩ := by
  have first : (UInt8.ofNat (n / 0x40000 % 8 + 0xF0)).toNat = n / 0x40000 + 0xF0 := by
    rw [UInt8.toNat_ofNat']
    omega
  have bounds : (0x80 : UInt8).toNat = 0x80 ∧ (0x90 : UInt8).toNat = 0x90
      ∧ (0x8F : UInt8).toNat = 0x8F ∧ (0xBF : UInt8).toNat = 0xBF := ⟨rfl, rfl, rfl, rfl⟩
  have read : ∀ {least most : UInt8} {code : Nat}, code = n / 0x40000 →
      least.toNat ≤ n / 0x1000 % 0x40 + 0x80 → n / 0x1000 % 0x40 + 0x80 ≤ most.toNat →
      secondWithin least most 2 code
        (tailOf (n / 0x1000) :: tailOf (n / 0x40) :: tailOf n :: rest) = ⟨3, .ok n⟩ := by
    intro least most code top above below
    have whole : ((code * 0x40 + n / 0x1000 % 0x40) * 0x40 + n / 0x40 % 0x40) * 0x40 + n % 0x40 =
        n := by omega
    rw [secondWithin_tailOf above below, continueWith_tailOf, continueWith_tailOf, continueWith,
      whole]
  rw [front, first, if_neg (by omega), if_neg (by omega), if_neg (by omega), if_neg (by omega),
    if_neg (by omega), if_neg (by omega)]
  by_cases lowest : n / 0x40000 + 0xF0 = 0xF0
  · rw [if_pos lowest]
    exact read (by omega) (by omega) (by omega)
  rw [if_neg lowest]
  by_cases inner : n / 0x40000 + 0xF0 < 0xF4
  · rw [if_pos inner]
    exact read (by omega) (by omega) (by omega)
  rw [if_neg inner, if_pos (by omega)]
  exact read (by omega) (by omega) (by omega)

/-- The bytes of a character stand for it, whatever follows them. -/
theorem exists_front_encodeChar (c : Char) :
    ∃ first more, String.utf8EncodeChar c = first :: more
      ∧ ∀ rest, front first (more ++ rest) = ⟨more.length, .ok c.toNat⟩ := by
  have valid := toNat_valid c
  rw [encodeChar_eq]
  generalize c.toNat = n at valid
  by_cases one : n ≤ 0x7F
  · refine ⟨_, _, if_pos one, ?_⟩
    intro rest
    have first : (UInt8.ofNat n).toNat = n := by
      rw [UInt8.toNat_ofNat']
      omega
    rw [front, first, if_pos (by omega)]
    rfl
  rw [if_neg one]
  by_cases two : n ≤ 0x7FF
  · exact ⟨_, _, if_pos two, front_two (by omega) two⟩
  rw [if_neg two]
  by_cases three : n ≤ 0xFFFF
  · exact ⟨_, _, if_pos three, front_three (by omega) three (by omega)⟩
  rw [if_neg three]
  exact ⟨_, _, rfl, front_four (by omega) (by omega)⟩

theorem pieces_encodeChar_append (position : Nat) (c : Char) (rest : List UInt8) :
    ∃ next, pieces position (String.utf8EncodeChar c ++ rest) = .ok c :: pieces next rest := by
  obtain ⟨first, more, bytes, read⟩ := exists_front_encodeChar c
  refine ⟨position + more.length + 1, ?_⟩
  rw [bytes, List.cons_append, pieces, read]
  simp only [Char.ofNat_toNat, List.drop_left]

theorem pieces_encode (position : Nat) (s : List Char) :
    pieces position (encode s) = s.map .ok := by
  induction s generalizing position with
  | nil => rw [encode, List.flatMap_nil, pieces, List.map_nil]
  | cons c s ih =>
    obtain ⟨next, read⟩ := pieces_encodeChar_append position c (encode s)
    rw [encode, List.flatMap_cons, ← encode, read, ih, List.map_cons]

/-- The bytes of a text of characters are those of the characters. -/
theorem encodeText_map_char (s : List Char) : encodeText (s.map .char) = encode s :=
  List.flatMap_map CodePoint.char encodePoint s

/-- No replacement character is needed for the bytes of characters. -/
theorem decodeReplacing_encode (s : List Char) : decodeReplacing (encode s) = s := by
  rw [decodeReplacing, pieces_encode, List.map_map]
  exact List.map_id s

/-- A text without halves that stand alone is what its bytes are read as. -/
theorem decodeReplacing_encodeText {s : List CodePoint} (whole : isWhole s = true) :
    (decodeReplacing (encodeText s)).map .char = s := by
  obtain ⟨found, rfl⟩ := exists_chars_of_isWhole whole
  rw [encodeText_map_char, decodeReplacing_encode]

/-- The bytes of a text are read as that text. -/
theorem decode_encode (s : List Char) : decode (encode s) = .ok s := by
  rw [decode, pieces_encode]
  induction s with
  | nil => rfl
  | cons c s ih =>
    rw [List.map_cons, List.mapM_cons, ih]
    rfl

/-- The bytes of a text in which no half stands alone are read as that text. -/
theorem decodeText_encodeText {s : List CodePoint} (whole : isWhole s = true) :
    decodeText (encodeText s) = .ok s := by
  obtain ⟨found, rfl⟩ := exists_chars_of_isWhole whole
  rw [encodeText_map_char, decodeText, decode_encode]
  rfl

end LogTemplate.Text.Utf8

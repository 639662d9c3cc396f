import SourceTrace.Text.Utf8

/-!
# Decoding well formed bytes

Lossy decoding changes nothing on bytes that are the UTF-8 form of characters, by
`decodeLossy_encode`. The bits of a character arrive in groups of six behind those of its first
byte; `decodeAfter_continuation` and `decodeAfter_last` take one group each, and what is left to see
for each length is that the first byte is taken for what it is and admits the second.
-/

namespace SourceTrace.Text

/-- The continuation byte for the lowest six bits of a number. -/
def continuation (value : Nat) : UInt8 :=
  UInt8.ofNat (value % 64 + 0x80)

/-- A continuation byte holds six bits. -/
theorem toNat_continuation (value : Nat) : (continuation value).toNat = value % 64 + 0x80 := by
  rw [continuation, UInt8.toNat_ofNat']
  omega

/-- A byte is accepted between two bounds. -/
theorem accepts_eq_true_iff (pending : Pending) (byte : UInt8) :
    pending.accepts byte = true ↔
      pending.low.toNat ≤ byte.toNat ∧ byte.toNat ≤ pending.high.toNat := by
  simp [Pending.accepts, UInt8.le_iff_toNat_le]

/-- A continuation byte adds its six bits. -/
theorem extend_continuation (pending : Pending) (value : Nat) :
    pending.extend (continuation value) = pending.bits * 64 + value % 64 := by
  have extended : pending.extend (continuation value) =
      pending.bits * 64 + ((continuation value).toNat - 0x80) := rfl
  rw [extended, toNat_continuation, Nat.add_sub_cancel]

/-- A continuation byte within bounds adds its bits and lifts the bounds. -/
theorem decodeAfter_continuation {more value bits : Nat} {low high : UInt8} (rest : List UInt8)
    (accepted : (Pending.mk (more + 1) low high bits).accepts (continuation value) = true) :
    decodeAfter ⟨more + 1, low, high, bits⟩ (continuation value :: rest) =
      decodeAfter ⟨more, 0x80, 0xBF, bits * 64 + value % 64⟩ rest := by
  rw [decodeAfter, if_pos accepted, extend_continuation]

/-- The last continuation byte completes the character. -/
theorem decodeAfter_last {value bits : Nat} {low high : UInt8} (rest : List UInt8)
    (accepted : (Pending.mk 0 low high bits).accepts (continuation value) = true) :
    decodeAfter ⟨0, low, high, bits⟩ (continuation value :: rest) =
      Char.ofNat (bits * 64 + value % 64) :: decodeLossy rest := by
  rw [decodeAfter, if_pos accepted, extend_continuation]

/-- A continuation byte within the bounds is accepted. -/
theorem accepts_continuation_of_bounds (more bits : Nat) {value : Nat} {low high : UInt8}
    (least : low.toNat ≤ value % 64 + 0x80) (greatest : value % 64 + 0x80 ≤ high.toNat) :
    (Pending.mk more low high bits).accepts (continuation value) = true := by
  rw [accepts_eq_true_iff, toNat_continuation]
  exact ⟨least, greatest⟩

/-- Behind the second byte every continuation byte is admitted. -/
theorem accepts_continuation (more bits value : Nat) :
    (Pending.mk more 0x80 0xBF bits).accepts (continuation value) = true :=
  accepts_continuation_of_bounds more bits
    (show 0x80 ≤ value % 64 + 0x80 by omega) (show value % 64 + 0x80 ≤ 0xBF by omega)

section Lengths

variable {value : Nat}

/-- A number below 128 is a single byte. -/
theorem lead_of_one (below : value ≤ 0x7F) :
    lead (UInt8.ofNat value) = .single (Char.ofNat value) := by
  have code : (UInt8.ofNat value).toNat = value := by
    rw [UInt8.toNat_ofNat']
    omega
  simp only [lead, code]
  rw [if_pos (by omega)]

/-- The first of two bytes. -/
theorem lead_of_two (above : 0x7F < value) (below : value ≤ 0x7FF) :
    lead (UInt8.ofNat (value / 64 % 32 + 0xC0)) = .first ⟨0, 0x80, 0xBF, value / 64⟩ := by
  have code : (UInt8.ofNat (value / 64 % 32 + 0xC0)).toNat = value / 64 + 0xC0 := by
    rw [UInt8.toNat_ofNat']
    omega
  simp only [lead, code]
  rw [if_neg (by omega), if_neg (by omega), if_pos (by omega), Nat.add_sub_cancel]

/-- The first of three bytes admits the second, which is bounded so that the character is neither
written too long nor a surrogate. -/
theorem exists_lead_of_three (above : 0x7FF < value) (below : value ≤ 0xFFFF)
    (scalar : value < 0xD800 ∨ 0xDFFF < value) :
    ∃ low high, lead (UInt8.ofNat (value / 4096 % 16 + 0xE0)) =
        .first ⟨1, low, high, value / 4096⟩ ∧
      (Pending.mk 1 low high (value / 4096)).accepts (continuation (value / 64)) = true := by
  have code : (UInt8.ofNat (value / 4096 % 16 + 0xE0)).toNat = value / 4096 + 0xE0 := by
    rw [UInt8.toNat_ofNat']
    omega
  simp only [lead, code]
  rw [if_neg (by omega), if_neg (by omega), if_neg (by omega)]
  by_cases overlong : value / 4096 + 0xE0 = 0xE0
  · refine ⟨0xA0, 0xBF, ?_, accepts_continuation_of_bounds _ _ ?_ ?_⟩
    · rw [if_pos overlong, show value / 4096 = 0 by omega]
    · show 0xA0 ≤ value / 64 % 64 + 0x80
      omega
    · show value / 64 % 64 + 0x80 ≤ 0xBF
      omega
  · rw [if_neg overlong]
    by_cases surrogate : value / 4096 + 0xE0 = 0xED
    · refine ⟨0x80, 0x9F, ?_, accepts_continuation_of_bounds _ _ ?_ ?_⟩
      · rw [if_pos surrogate, Nat.add_sub_cancel]
      · show 0x80 ≤ value / 64 % 64 + 0x80
        omega
      · show value / 64 % 64 + 0x80 ≤ 0x9F
        omega
    · refine ⟨0x80, 0xBF, ?_, accepts_continuation _ _ _⟩
      rw [if_neg surrogate, if_pos (by omega), Nat.add_sub_cancel]

/-- The first of four bytes admits the second, which is bounded so that the character is neither
written too long nor beyond the last code point. -/
theorem exists_lead_of_four (above : 0xFFFF < value) (below : value ≤ 0x10FFFF) :
    ∃ low high, lead (UInt8.ofNat (value / 262144 % 8 + 0xF0)) =
        .first ⟨2, low, high, value / 262144⟩ ∧
      (Pending.mk 2 low high (value / 262144)).accepts (continuation (value / 4096)) = true := by
  have code : (UInt8.ofNat (value / 262144 % 8 + 0xF0)).toNat = value / 262144 + 0xF0 := by
    rw [UInt8.toNat_ofNat']
    omega
  simp only [lead, code]
  rw [if_neg (by omega), if_neg (by omega), if_neg (by omega), if_neg (by omega), if_neg (by omega),
    if_neg (by omega)]
  by_cases overlong : value / 262144 + 0xF0 = 0xF0
  · refine ⟨0x90, 0xBF, ?_, accepts_continuation_of_bounds _ _ ?_ ?_⟩
    · rw [if_pos overlong, show value / 262144 = 0 by omega]
    · show 0x90 ≤ value / 4096 % 64 + 0x80
      omega
    · show value / 4096 % 64 + 0x80 ≤ 0xBF
      omega
  · rw [if_neg overlong]
    by_cases inside : value / 262144 + 0xF0 < 0xF4
    · refine ⟨0x80, 0xBF, ?_, accepts_continuation _ _ _⟩
      rw [if_pos inside, Nat.add_sub_cancel]
    · refine ⟨0x80, 0x8F, ?_, accepts_continuation_of_bounds _ _ ?_ ?_⟩
      · rw [if_neg inside, if_pos (by omega), Nat.add_sub_cancel]
      · show 0x80 ≤ value / 4096 % 64 + 0x80
        omega
      · show value / 4096 % 64 + 0x80 ≤ 0x8F
        omega

end Lengths

section Characters

variable {value : Nat} (rest : List UInt8)

/-- A byte that announces more leaves the rest of the character to the bytes behind it. -/
theorem decodeLossy_of_lead {byte : UInt8} {pending : Pending} (led : lead byte = .first pending) :
    decodeLossy (byte :: rest) = decodeAfter pending rest := by
  rw [decodeLossy, led]

/-- A character of one byte is read back. -/
theorem decodeLossy_of_one (below : value ≤ 0x7F) :
    decodeLossy (UInt8.ofNat value :: rest) = Char.ofNat value :: decodeLossy rest := by
  rw [decodeLossy, lead_of_one below]

/-- A character of two bytes is read back. -/
theorem decodeLossy_of_two (above : 0x7F < value) (below : value ≤ 0x7FF) :
    decodeLossy (UInt8.ofNat (value / 64 % 32 + 0xC0) :: continuation value :: rest) =
      Char.ofNat value :: decodeLossy rest := by
  rw [decodeLossy_of_lead _ (lead_of_two above below),
    decodeAfter_last rest (accepts_continuation _ _ _),
    show value / 64 * 64 + value % 64 = value by omega]

/-- A character of three bytes is read back, unless it is a surrogate. -/
theorem decodeLossy_of_three (above : 0x7FF < value) (below : value ≤ 0xFFFF)
    (scalar : value < 0xD800 ∨ 0xDFFF < value) :
    decodeLossy (UInt8.ofNat (value / 4096 % 16 + 0xE0) :: continuation (value / 64) ::
      continuation value :: rest) = Char.ofNat value :: decodeLossy rest := by
  obtain ⟨low, high, led, accepted⟩ := exists_lead_of_three above below scalar
  rw [decodeLossy_of_lead _ led, decodeAfter_continuation _ accepted,
    decodeAfter_last rest (accepts_continuation _ _ _),
    show (value / 4096 * 64 + value / 64 % 64) * 64 + value % 64 = value by omega]

/-- A character of four bytes is read back. -/
theorem decodeLossy_of_four (above : 0xFFFF < value) (below : value ≤ 0x10FFFF) :
    decodeLossy (UInt8.ofNat (value / 262144 % 8 + 0xF0) :: continuation (value / 4096) ::
      continuation (value / 64) :: continuation value :: rest) =
        Char.ofNat value :: decodeLossy rest := by
  obtain ⟨low, high, led, accepted⟩ := exists_lead_of_four above below
  rw [decodeLossy_of_lead _ led, decodeAfter_continuation _ accepted,
    decodeAfter_continuation _ (accepts_continuation _ _ _),
    decodeAfter_last rest (accepts_continuation _ _ _),
    show ((value / 262144 * 64 + value / 4096 % 64) * 64 + value / 64 % 64) * 64 + value % 64 =
      value
      by omega]

end Characters

/-- The bytes of a character are decoded to it, whatever follows. -/
theorem decodeLossy_utf8EncodeChar_append (c : Char) (rest : List UInt8) :
    decodeLossy (String.utf8EncodeChar c ++ rest) = c :: decodeLossy rest := by
  have whole : Char.ofNat c.val.toNat = c := Char.ofNat_toNat c
  have valid : c.val.toNat < 0xD800 ∨ 0xDFFF < c.val.toNat ∧ c.val.toNat < 0x110000 := c.valid
  rw [String.utf8EncodeChar]
  generalize c.val.toNat = value at whole valid
  rw [← whole]
  split
  · rename_i one
    exact decodeLossy_of_one rest one
  · rename_i notOne
    split
    · rename_i two
      exact decodeLossy_of_two rest (Nat.lt_of_not_le notOne) two
    · rename_i notTwo
      split
      · rename_i three
        exact decodeLossy_of_three rest (Nat.lt_of_not_le notTwo) three (valid.imp_right And.left)
      · rename_i notThree
        exact decodeLossy_of_four rest (Nat.lt_of_not_le notThree) (by omega)

/-- Lossy decoding inverts encoding. -/
theorem decodeLossy_encode (chars : List Char) : decodeLossy (encode chars) = chars := by
  induction chars with
  | nil => rw [encode, List.flatMap_nil, decodeLossy]
  | cons c chars inductionHypothesis =>
    rw [encode] at inductionHypothesis ⊢
    rw [List.flatMap_cons, decodeLossy_utf8EncodeChar_append, inductionHypothesis]

end SourceTrace.Text

import Mathlib.Data.List.Induction
import SourceTrace.Evm.Bytecode
import SourceTrace.Proofs.Text.Hexadecimal

/-!
# Hexadecimal bytecode

Bytecode is read from pairs of hexadecimal digits. The reader goes over the bytes of a text, not
over its characters; `Text.pairDigits_encode_eq_ok_iff` shows that this makes no difference, because
a byte that is the code of a digit is a whole character. `Evm.Bytecode.parse_spelled_hex` says which
texts are read, and that each spelling of some bytes is read as these bytes.
-/

namespace SourceTrace

namespace Text

/-- Characters spell bytes: two digits for each, the high half first. -/
inductive SpellsBytes : List Char → List UInt8 → Prop where
  | nil : SpellsBytes [] []
  | cons {high low : Char} {highValue lowValue : Nat} {byte : UInt8} {chars : List Char}
      {bytes : List UInt8} (highDigit : IsHexDigit high highValue)
      (lowDigit : IsHexDigit low lowValue)
      (value : byte.toNat = highValue * 16 + lowValue) (rest : SpellsBytes chars bytes) :
      SpellsBytes (high :: low :: chars) (byte :: bytes)

section Bytes

variable {chars : List Char} {bytes : List UInt8}

/-- A spelling of bytes is made of hexadecimal digits. -/
theorem SpellsBytes.exists_isHexDigit (spells : SpellsBytes chars bytes) :
    ∀ c ∈ chars, ∃ value, IsHexDigit c value := by
  induction spells with
  | nil => simp
  | cons highDigit lowDigit value rest inductionHypothesis =>
    rw [List.forall_mem_cons, List.forall_mem_cons]
    exact ⟨⟨_, highDigit⟩, ⟨_, lowDigit⟩, inductionHypothesis⟩

/-- A spelling of bytes has two digits for each of them. -/
theorem SpellsBytes.length_eq (spells : SpellsBytes chars bytes) :
    chars.length = 2 * bytes.length := by
  induction spells with
  | nil => rfl
  | cons highDigit lowDigit value rest inductionHypothesis =>
    rw [List.length_cons, List.length_cons, List.length_cons, inductionHypothesis]
    omega

/-- Digits that can be paired spell bytes. -/
theorem exists_spellsBytes (all : ∀ c ∈ chars, ∃ value, IsHexDigit c value)
    (paired : chars.length % 2 = 0) : ∃ bytes, SpellsBytes chars bytes := by
  induction chars using List.twoStepInduction with
  | nil => exact ⟨[], .nil⟩
  | singleton c => cases paired
  | cons_cons high low rest inductionHypothesis _ =>
    rw [List.forall_mem_cons, List.forall_mem_cons] at all
    obtain ⟨⟨highValue, highDigit⟩, ⟨lowValue, lowDigit⟩, restAll⟩ := all
    have restPaired : rest.length % 2 = 0 := by
      simp only [List.length_cons] at paired
      omega
    obtain ⟨bytes, spells⟩ := inductionHypothesis restAll restPaired
    have highSmall := highDigit.lt
    have lowSmall := lowDigit.lt
    refine ⟨UInt8.ofNat (highValue * 16 + lowValue) :: bytes,
      .cons highDigit lowDigit ?_ spells⟩
    rw [UInt8.toNat_ofNat']
    omega

/-- Characters are encoded one by one. -/
theorem encode_cons (c : Char) (chars : List Char) :
    encode (c :: chars) = String.utf8EncodeChar c ++ encode chars :=
  List.flatMap_cons

/-- The byte of a digit is its code, and it has the value of the digit. -/
theorem encode_of_isHexDigit {c : Char} {value : Nat} (digit : IsHexDigit c value) :
    ∃ byte, String.utf8EncodeChar c = [byte] ∧ hexByteDigit? byte = some value := by
  have read := hexDigit?_eq_some_iff.mpr digit
  have ascii : c.val.toNat ≤ 127 := Nat.le_of_lt_succ (toNat_lt_of_hexDigit? read)
  refine ⟨UInt8.ofNat c.val.toNat, ?_, ?_⟩
  · rw [String.utf8EncodeChar]
    exact if_pos ascii
  · have code : (UInt8.ofNat c.val.toNat).toNat = c.toNat := by
      rw [UInt8.toNat_ofNat']
      exact Nat.mod_eq_of_lt (by omega)
    rw [hexByteDigit?, code, Char.ofNat_toNat, read]

/-- Digits have one byte each. -/
theorem length_encode_of_isHexDigit (all : ∀ c ∈ chars, ∃ value, IsHexDigit c value) :
    (encode chars).length = chars.length := by
  induction chars with
  | nil => rfl
  | cons c rest inductionHypothesis =>
    rw [List.forall_mem_cons] at all
    obtain ⟨⟨value, digit⟩, restAll⟩ := all
    obtain ⟨byte, single, -⟩ := encode_of_isHexDigit digit
    rw [encode_cons, single, List.singleton_append, List.length_cons, inductionHypothesis restAll,
      List.length_cons]

/-- Only ASCII bytes are digits. -/
theorem toNat_lt_of_hexByteDigit? {byte : UInt8} {value : Nat}
    (read : hexByteDigit? byte = some value) :
    byte.toNat < 128 := by
  have checked : ∀ code < 256, (hexByteDigit? (UInt8.ofNat code)).isSome → code < 128 := by
    decide +kernel
  apply checked byte.toNat byte.toNat_lt
  rw [UInt8.ofNat_toNat, read]
  rfl

/-- A first byte that is the code of a digit is the whole of that digit, because all other
characters start with bytes beyond those codes. -/
theorem isHexDigit_of_encode {c : Char} {byte : UInt8} {more : List UInt8} {value : Nat}
    (encoded : String.utf8EncodeChar c = byte :: more) (read : hexByteDigit? byte = some value) :
    IsHexDigit c value ∧ more = [] := by
  have small := toNat_lt_of_hexByteDigit? read
  rw [String.utf8EncodeChar] at encoded
  split at encoded
  · rename_i ascii
    obtain ⟨rfl, rfl⟩ := List.cons.inj encoded
    have code : (UInt8.ofNat c.val.toNat).toNat = c.toNat := by
      rw [UInt8.toNat_ofNat']
      exact Nat.mod_eq_of_lt (by omega)
    rw [hexByteDigit?, code, Char.ofNat_toNat] at read
    exact ⟨hexDigit?_eq_some_iff.mp read, rfl⟩
  · exfalso
    split at encoded
    · rw [← (List.cons.inj encoded).1, UInt8.toNat_ofNat'] at small
      omega
    · split at encoded
      · rw [← (List.cons.inj encoded).1, UInt8.toNat_ofNat'] at small
        omega
      · rw [← (List.cons.inj encoded).1, UInt8.toNat_ofNat'] at small
        omega

/-- Bytes are paired only if they are the codes of digits. -/
theorem exists_of_pairDigits {position : Nat} {codes : List UInt8}
    (paired : pairDigits position codes = .ok bytes) :
    codes = [] ∧ bytes = [] ∨ ∃ high low rest highValue lowValue tail,
      codes = high :: low :: rest ∧ hexByteDigit? high = some highValue ∧
        hexByteDigit? low = some lowValue ∧ pairDigits (position + 2) rest = .ok tail ∧
        bytes = UInt8.ofNat (highValue * 16 + lowValue) :: tail := by
  match codes with
  | [] => exact Or.inl ⟨rfl, (Except.ok.inj paired).symm⟩
  | [_] => cases paired
  | high :: low :: rest =>
    rw [pairDigits] at paired
    split at paired
    · cases paired
    · cases paired
    · rename_i highValue lowValue highRead lowRead
      split at paired
      · cases paired
      · rename_i tail tailPaired
        exact Or.inr ⟨high, low, rest, highValue, lowValue, tail, rfl, highRead, lowRead,
          tailPaired, (Except.ok.inj paired).symm⟩

/-- Only the empty text is encoded as no bytes. -/
theorem encode_eq_nil_iff : encode chars = [] ↔ chars = [] := by
  cases chars with
  | nil => simp [encode]
  | cons c rest => simp [encode_cons, String.utf8EncodeChar_ne_nil]

/-- A digit at the start of encoded characters is their first character. -/
theorem exists_cons_of_encode {first : UInt8} {rest : List UInt8} {value : Nat}
    (encoded : encode chars = first :: rest) (read : hexByteDigit? first = some value) :
    ∃ c others, chars = c :: others ∧ IsHexDigit c value ∧ encode others = rest := by
  cases chars with
  | nil => cases encoded
  | cons c others =>
    rw [encode_cons] at encoded
    obtain ⟨byte, more, single⟩ := List.exists_cons_of_ne_nil (@String.utf8EncodeChar_ne_nil c)
    rw [single, List.cons_append] at encoded
    obtain ⟨rfl, behind⟩ := List.cons.inj encoded
    obtain ⟨digit, rfl⟩ := isHexDigit_of_encode single read
    exact ⟨c, others, rfl, digit, behind⟩

/-- The bytes of characters are paired exactly if the characters spell the result. -/
theorem pairDigits_encode_eq_ok_iff {position : Nat} :
    pairDigits position (encode chars) = .ok bytes ↔ SpellsBytes chars bytes := by
  constructor
  · intro paired
    induction bytes generalizing position chars with
    | nil =>
      obtain ⟨empty, -⟩ | ⟨_, _, _, _, _, _, _, _, _, _, absurdity⟩ :=
        exists_of_pairDigits paired
      · rw [encode_eq_nil_iff.mp empty]
        exact .nil
      · cases absurdity
    | cons byte bytes inductionHypothesis =>
      obtain ⟨-, absurdity⟩ | ⟨high, low, rest, highValue, lowValue, tail, encoded, highRead,
        lowRead, tailPaired, whole⟩ := exists_of_pairDigits paired
      · cases absurdity
      · obtain ⟨rfl, rfl⟩ := List.cons.inj whole
        obtain ⟨highChar, others, rfl, highDigit, behind⟩ :=
          exists_cons_of_encode encoded highRead
        obtain ⟨lowChar, others, rfl, lowDigit, rfl⟩ := exists_cons_of_encode behind lowRead
        have highSmall := highDigit.lt
        have lowSmall := lowDigit.lt
        refine .cons highDigit lowDigit ?_ (inductionHypothesis tailPaired)
        rw [UInt8.toNat_ofNat']
        omega
  · intro spells
    induction spells generalizing position with
    | nil => rfl
    | cons highDigit lowDigit value rest inductionHypothesis =>
      obtain ⟨high, highEncoded, highRead⟩ := encode_of_isHexDigit highDigit
      obtain ⟨low, lowEncoded, lowRead⟩ := encode_of_isHexDigit lowDigit
      rw [encode_cons, encode_cons, highEncoded, lowEncoded, List.singleton_append,
        List.singleton_append, pairDigits]
      simp only [highRead, lowRead, inductionHypothesis, ← value, UInt8.ofNat_toNat]

/-- The bytes that a text spells are read from its body. -/
theorem readHex_eq_ok_iff {text : String} (body : HasHexBody text chars) :
    readHex text = .ok bytes ↔ SpellsBytes chars bytes := by
  rw [hasHexBody_iff] at body
  rw [readHex, Text.bytes, ← body]
  constructor
  · intro read
    split at read
    · cases read
    · exact pairDigits_encode_eq_ok_iff.mp read
  · intro spells
    have even : ¬(encode chars).length % 2 = 1 := by
      rw [length_encode_of_isHexDigit spells.exists_isHexDigit, spells.length_eq]
      omega
    rw [if_neg even]
    exact pairDigits_encode_eq_ok_iff.mpr spells

end Bytes

end Text

namespace Evm.Bytecode

/-- A text is bytecode exactly if its body spells at least one byte. -/
theorem parse_eq_ok_iff_spellsBytes {text : String} {digits : List Char} {code : Bytecode}
    (body : Text.HasHexBody text digits) :
    parse text = .ok code ↔ Text.SpellsBytes digits code.bytes := by
  have present : (Text.hexDigits text).isEmpty = true ↔ digits = [] := by
    rw [Text.hasHexBody_iff.mp body, String.isEmpty_iff, String.toList_eq_nil_iff]
  rw [parse]
  constructor
  · intro parsed
    split at parsed
    · cases parsed
    · split at parsed
      · cases parsed
      · rename_i bytes read
        rw [ofBytes] at parsed
        split at parsed
        · cases parsed
        · cases parsed
          exact (Text.readHex_eq_ok_iff body).mp read
  · intro spells
    have nonempty : ¬(Text.hexDigits text).isEmpty = true := by
      rw [present]
      rintro rfl
      have length := spells.length_eq
      rw [List.length_nil] at length
      exact code.nonempty (List.length_eq_zero_iff.mp (by omega))
    rw [if_neg nonempty, (Text.readHex_eq_ok_iff body).mpr spells]
    exact dif_neg code.nonempty

/-- Whatever is wrong with a bytecode, it is reported as such. -/
theorem exists_bytecode_of_parse {text : String} {error : LookupError}
    (failed : parse text = .error error) : ∃ fault, error = .bytecode fault := by
  rw [parse] at failed
  split at failed
  · cases failed
    exact ⟨_, rfl⟩
  · split at failed
    · cases failed
      exact ⟨_, rfl⟩
    · rw [ofBytes] at failed
      split at failed
      · cases failed
        exact ⟨_, rfl⟩
      · cases failed

/-- A text is bytecode exactly if its body is digits that can be paired, at least two of them. -/
theorem exists_parse_eq_ok_iff {text : String} {digits : List Char}
    (body : Text.HasHexBody text digits) :
    (∃ code, parse text = .ok code) ↔ digits ≠ [] ∧ (Text.encode digits).length % 2 = 0 ∧
      ∀ c ∈ digits, ∃ value, Text.IsHexDigit c value := by
  constructor
  · rintro ⟨code, parsed⟩
    have spells := (parse_eq_ok_iff_spellsBytes body).mp parsed
    have all := spells.exists_isHexDigit
    have length := spells.length_eq
    have present := List.length_pos_iff.mpr code.nonempty
    refine ⟨List.length_pos_iff.mp (by omega), ?_, all⟩
    rw [Text.length_encode_of_isHexDigit all]
    omega
  · rintro ⟨present, even, all⟩
    rw [Text.length_encode_of_isHexDigit all] at even
    obtain ⟨bytes, spells⟩ := Text.exists_spellsBytes all even
    have length := spells.length_eq
    have positive := List.length_pos_iff.mpr present
    have nonempty : bytes ≠ [] := List.length_pos_iff.mp (by omega)
    exact ⟨⟨bytes, nonempty⟩, (parse_eq_ok_iff_spellsBytes body).mpr spells⟩

/-- Bytecode is read from exactly the hexadecimal texts. Every text has one body, which is the text
without blank margins and then without one marker. The text is read exactly if this body is not
empty, has an even number of bytes and holds digits only; the bytes that are read are the ones that
the body spells, and the bytecode is the one of these bytes. All other texts fail as bytecode.
Consequently every spelling of some bytes is read as these bytes, whatever the case of its digits,
with or without margins and a marker. -/
theorem parse_spelled_hex (text : String) :
    (∃ digits, (∀ other, Text.HasHexBody text other ↔ other = digits) ∧
      ((∃ code, parse text = .ok code) ↔
        digits ≠ [] ∧ (Text.encode digits).length % 2 = 0 ∧
        ∀ c ∈ digits, ∃ value, Text.IsHexDigit c value) ∧
      (∀ code, parse text = .ok code →
        Text.SpellsBytes digits code.bytes ∧ ofBytes code.bytes = parse text) ∧
      ∀ error, parse text = .error error → ∃ fault, error = .bytecode fault) ∧
    ∀ digits bytes, bytes ≠ [] → Text.SpellsBytes digits bytes → Text.Wraps text digits →
      ∃ code, parse text = .ok code ∧ code.bytes = bytes := by
  constructor
  · have body := Text.hasHexBody_iff.mpr (Eq.refl (Text.hexDigits text).toList)
    refine ⟨(Text.hexDigits text).toList, fun other => Text.hasHexBody_iff,
      exists_parse_eq_ok_iff body, ?_, fun error => exists_bytecode_of_parse⟩
    intro code parsed
    rw [parsed]
    exact ⟨(parse_eq_ok_iff_spellsBytes body).mp parsed, dif_neg code.nonempty⟩
  · intro digits bytes nonempty spells wraps
    have body := wraps.hasHexBody spells.exists_isHexDigit
    exact ⟨⟨bytes, nonempty⟩, (parse_eq_ok_iff_spellsBytes body).mpr spells, rfl⟩

/-- The case of digits may change within a byte. -/
theorem parse_spelled_hex_mixed_case :
    Text.SpellsBytes "dEaD".toList [0xDE, 0xAD] ∧ Text.Wraps " 0XdEaD\n" "dEaD".toList ∧
      ∃ code, parse " 0XdEaD\n" = .ok code ∧ code.bytes = [0xDE, 0xAD] := by
  have spells : Text.SpellsBytes "dEaD".toList [0xDE, 0xAD] := by
    refine .cons (?_ : Text.IsHexDigit 'd' 13) (?_ : Text.IsHexDigit 'E' 14) rfl
      (.cons (?_ : Text.IsHexDigit 'a' 10) (?_ : Text.IsHexDigit 'D' 13) rfl .nil) <;> decide
  have wraps : Text.Wraps " 0XdEaD\n" "dEaD".toList :=
    ⟨[' '], ['0', 'X'], ['\n'], by decide, List.forall_mem_singleton.mpr rfl,
      List.forall_mem_singleton.mpr rfl, by decide⟩
  exact ⟨spells, wraps, (parse_spelled_hex _).2 _ _ (by decide) spells wraps⟩

end Evm.Bytecode

end SourceTrace

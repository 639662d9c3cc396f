import SourceTrace.Proofs.Source.Lines
import SourceTrace.Proofs.Text.Decoding

/-!
# Snippets

A snippet is cut out of a file with the help of its line index, or out of a bare text by counting
line feeds. `snippet?_of_file_and_text` shows that both give the same, when they give nothing, and
that a snippet between two character boundaries has exactly the bytes of its range, since decoding
has nothing to replace there.
-/

namespace SourceTrace

namespace Text

/-- Texts are encoded one behind the other. -/
theorem encode_append (first second : List Char) :
    encode (first ++ second) = encode first ++ encode second := by
  simp [encode]

/-- The length of a text in bytes is that of its encoding. -/
theorem length_bytes (text : String) : (bytes text).length = text.utf8ByteSize := by
  rw [← String.size_toByteArray, ← String.ofList_toList (s := text), String.toByteArray_ofList,
    List.utf8Encode, List.size_toByteArray, bytes, encode, String.toList_ofList]

/-- A character boundary divides a text into two lists of characters. -/
theorem exists_append_of_isValid {text : String} {offset : Nat}
    (boundary : (String.Pos.Raw.mk offset).IsValid text) :
    ∃ before after, text.toList = before ++ after ∧ (encode before).length = offset := by
  obtain ⟨before, after, rfl, ends⟩ := String.Pos.Raw.isValid_iff_exists_append.mp boundary
  refine ⟨before.toList, after.toList, String.toList_append, ?_⟩
  have length := length_bytes before
  rw [bytes] at length
  rw [length]
  exact (congrArg String.Pos.Raw.byteIdx ends).symm

/-- Two character boundaries cut whole characters out of a text. -/
theorem exists_cut_of_isValid {text : String} {offset length : Nat}
    (starts : (String.Pos.Raw.mk offset).IsValid text)
    (ends : (String.Pos.Raw.mk (offset + length)).IsValid text) :
    ∃ before middle after, text.toList = before ++ middle ++ after ∧
      (encode before).length = offset ∧ (encode middle).length = length := by
  obtain ⟨before, behind, split, start⟩ := exists_append_of_isValid starts
  obtain ⟨upTo, after, otherSplit, stop⟩ := exists_append_of_isValid ends
  rcases List.append_eq_append_iff.mp (split.symm.trans otherSplit) with
    ⟨middle, rfl, rfl⟩ | ⟨between, rfl, rfl⟩
  · rw [encode_append, List.length_append] at stop
    exact ⟨before, middle, after, otherSplit, start, by omega⟩
  · -- The second boundary is not behind the first one, so nothing lies between them.
    rw [encode_append, List.length_append] at start
    refine ⟨upTo ++ between, [], behind, by rw [split, List.append_nil], ?_, ?_⟩
    · rw [encode_append, List.length_append, start]
    · simp only [encode, List.flatMap_nil, List.length_nil]
      omega

/-- Between character boundaries a text can be cut, and decoding gives the bytes back. -/
theorem bytes_ofBytesLossy_cut {text : String} {offset length : Nat}
    (starts : (String.Pos.Raw.mk offset).IsValid text)
    (ends : (String.Pos.Raw.mk (offset + length)).IsValid text) :
    offset + length ≤ (bytes text).length ∧
      bytes (ofBytesLossy (((bytes text).drop offset).take length)) =
        ((bytes text).drop offset).take length := by
  obtain ⟨before, middle, after, split, rfl, rfl⟩ := exists_cut_of_isValid starts ends
  have parts : bytes text = encode before ++ (encode middle ++ encode after) := by
    rw [bytes, split, encode_append, encode_append, List.append_assoc]
  have cut : ((bytes text).drop (encode before).length).take (encode middle).length =
      encode middle := by
    rw [parts, List.drop_left, List.take_left]
  constructor
  · rw [parts, List.length_append, List.length_append]
    omega
  · rw [cut, bytes, ofBytesLossy, decodeLossy_encode, String.toList_ofList]

end Text

/-- There is no snippet exactly if the text ends before it does. -/
theorem snippet?_eq_none_iff (text : String) (offset length : Nat) :
    snippet? text offset length = none ↔ (Text.bytes text).length < offset + length := by
  simp [snippet?, Text.slice?]

/-- Cutting a file and cutting its content give the same: nothing exactly if the end of the range
overflows or lies behind the text, and otherwise the decoded range with one more than the number of
line feeds before it. Between character boundaries the code has exactly the bytes of the range. -/
theorem snippet?_of_file_and_text (path text : String) (offset length : UInt64) :
    (SourceFile.mk path (some text)).snippet? offset.toNat length.toNat =
        snippet? text offset.toNat length.toNat ∧
      (snippet? text offset.toNat length.toNat = none ↔
        (Text.bytes text).length < offset.toNat + length.toNat) ∧
      ((Text.bytes text).length < UInt64.size →
        (snippet? text offset.toNat length.toNat = none ↔
          UInt64.size ≤ offset.toNat + length.toNat ∨
            (Text.bytes text).length < offset.toNat + length.toNat)) ∧
      (∀ snippet, snippet? text offset.toNat length.toNat = some snippet →
        snippet.code =
            Text.ofBytesLossy (((Text.bytes text).drop offset.toNat).take length.toNat) ∧
          snippet.line = 1 + ((Text.bytes text).take offset.toNat).count lineFeed) ∧
      ((String.Pos.Raw.mk offset.toNat).IsValid text →
        (String.Pos.Raw.mk (offset.toNat + length.toNat)).IsValid text →
          ∃ snippet, snippet? text offset.toNat length.toNat = some snippet ∧
            Text.bytes snippet.code = ((Text.bytes text).drop offset.toNat).take length.toNat) := by
  have absent := snippet?_eq_none_iff text offset.toNat length.toNat
  refine ⟨SourceFile.snippet?_eq _ _ _, absent, ?_, ?_, ?_⟩
  · intro fits
    rw [absent]
    omega
  · intro snippet found
    obtain ⟨-, rfl⟩ := (snippet?_eq_some_iff text _ _ snippet).mp found
    exact ⟨rfl, rfl⟩
  · intro starts ends
    obtain ⟨long, exactly⟩ := Text.bytes_ofBytesLossy_cut starts ends
    exact ⟨_, (snippet?_eq_some_iff text _ _ _).mpr ⟨long, rfl⟩, exactly⟩

/-- A character of two bytes is cut out whole, and a range whose end overflows is not cut at all. -/
theorem snippet?_of_file_and_text_accent :
    let text := "aé\nb"
    (Text.bytes text).length < UInt64.size ∧
      (String.Pos.Raw.mk 1).IsValid text ∧ (String.Pos.Raw.mk 3).IsValid text ∧
      snippet? text (0xFFFFFFFFFFFFFFFF : UInt64).toNat (2 : UInt64).toNat = none ∧
      ∃ snippet, snippet? text (1 : UInt64).toNat (2 : UInt64).toNat = some snippet ∧
        Text.bytes snippet.code = [0xC3, 0xA9] := by
  intro text
  have fits : (Text.bytes text).length < UInt64.size := by decide
  have starts : (String.Pos.Raw.mk 1).IsValid text :=
    String.Pos.Raw.isValid_iff_exists_append.mpr ⟨"a", "é\nb", by decide, by decide⟩
  have ends : (String.Pos.Raw.mk 3).IsValid text :=
    String.Pos.Raw.isValid_iff_exists_append.mpr ⟨"aé", "\nb", by decide, by decide⟩
  obtain ⟨-, -, overflow, -⟩ := snippet?_of_file_and_text "a.sol" text 0xFFFFFFFFFFFFFFFF 2
  obtain ⟨-, -, -, -, whole⟩ := snippet?_of_file_and_text "a.sol" text 1 2
  obtain ⟨snippet, found, exactly⟩ := whole starts ends
  have absent := (overflow fits).mpr (Or.inl (by decide))
  exact ⟨fits, starts, ends, absent, snippet, found, exactly.trans (by decide)⟩

end SourceTrace

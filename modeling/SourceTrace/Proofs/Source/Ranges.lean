import SourceTrace.SourceRange
import SourceTrace.Proofs.Text.Integers
import SourceTrace.Proofs.Text.Joining

/-!
# Texts of source ranges

A range is read from exactly three integers with colons between them. `SourceRange.parse_by_grammar`
says which texts are read and as which range, that all others are reported as they stand, that a
range is read back from its own text, and which texts are written again as they were.
-/

namespace SourceTrace

namespace Text

/-- A numeral holds no colon. -/
theorem IsDecimal.colon_notMem {digits : List Char} {value : Nat}
    (numeral : IsDecimal digits value) :
    ':' ∉ digits :=
  numeral.notMem (by decide)

/-- A spelling of an unsigned number holds no colon. -/
theorem SpellsUnsigned.colon_notMem {text : String} {value : UInt64}
    (spelled : SpellsUnsigned text value) : ':' ∉ text.toList := by
  obtain ⟨digits, unsigned | plus, numeral⟩ := spelled
  · rw [unsigned]
    exact numeral.colon_notMem
  · rw [plus]
    simp [numeral.colon_notMem]

/-- A spelling of a signed number holds no colon. -/
theorem SpellsSigned.colon_notMem {text : String} {value : Int64}
    (spelled : SpellsSigned text value) : ':' ∉ text.toList := by
  obtain ⟨digits, magnitude, numeral, ⟨unsigned | plus, -⟩ | ⟨minus, -⟩⟩ := spelled
  · rw [unsigned]
    exact numeral.colon_notMem
  · rw [plus]
    simp [numeral.colon_notMem]
  · rw [minus]
    simp [numeral.colon_notMem]

end Text

namespace SourceRange

/-- Three texts are the fields of a range: an unsigned word each for the offset and the length, and
a signed one for the file. -/
structure HasFields (range : SourceRange) (offset length fileId : String) : Prop where
  offset : Text.SpellsUnsigned offset range.offset
  length : Text.SpellsUnsigned length range.length
  fileId : Text.SpellsSigned fileId range.fileId

/-- A text spells a range: its fields with colons between them. -/
def Spells (text : String) (range : SourceRange) : Prop :=
  ∃ offset length fileId, text = ":".intercalate [offset, length, fileId] ∧
    range.HasFields offset length fileId

/-- A text is in plain form if each of its fields is. -/
def IsPlain (text : String) : Prop :=
  ∀ field ∈ text.toList.splitOn ':', Text.IsPlainInteger field

section Fields

variable {range : SourceRange} {offset length fileId : String}

/-- Three fields are read as the range that they spell. -/
theorem ofFields?_eq_some_iff :
    ofFields? offset length fileId = some range ↔ range.HasFields offset length fileId := by
  have named : range.HasFields offset length fileId ↔
      Text.readUnsigned? offset = some range.offset ∧
        Text.readUnsigned? length = some range.length ∧
        Text.readSigned? fileId = some range.fileId := by
    rw [Text.readUnsigned?_eq_some_iff, Text.readUnsigned?_eq_some_iff,
      Text.readSigned?_eq_some_iff]
    exact ⟨fun fields => ⟨fields.offset, fields.length, fields.fileId⟩,
      fun ⟨first, second, third⟩ => ⟨first, second, third⟩⟩
  obtain ⟨start, size, file⟩ := range
  rw [named, ofFields?]
  cases Text.readUnsigned? offset <;> cases Text.readUnsigned? length <;>
    cases Text.readSigned? fileId <;> simp

/-- The fields of a range are found again between the colons. -/
theorem HasFields.splitOn_eq (fields : range.HasFields offset length fileId) :
    ((":".intercalate [offset, length, fileId]).toList.splitOn ':').map String.ofList =
      [offset, length, fileId] := by
  apply @Text.splitOn_toList_intercalate ':'
  · simp [fields.offset.colon_notMem, fields.length.colon_notMem, fields.fileId.colon_notMem]
  · simp

/-- A range is written as three numerals with colons between them. -/
theorem render_eq_intercalate (range : SourceRange) :
    range.render = ":".intercalate [Text.decimal range.offset.toNat,
      Text.decimal range.length.toNat, Text.signedDecimal range.fileId.toInt] := by
  simp [render, String.append_assoc]

/-- The texts that a range is written with are its fields. -/
theorem hasFields_decimal (range : SourceRange) :
    range.HasFields (Text.decimal range.offset.toNat) (Text.decimal range.length.toNat)
      (Text.signedDecimal range.fileId.toInt) where
  offset := Text.readUnsigned?_eq_some_iff.mp (Text.readUnsigned?_decimal range.offset)
  length := Text.readUnsigned?_eq_some_iff.mp (Text.readUnsigned?_decimal range.length)
  fileId := Text.readSigned?_eq_some_iff.mp (Text.readSigned?_signedDecimal range.fileId)

/-- What is written for a range spells it. -/
theorem spells_render (range : SourceRange) : Spells range.render range :=
  ⟨_, _, _, range.render_eq_intercalate, range.hasFields_decimal⟩

end Fields

section Texts

variable {text : String} {range : SourceRange}

/-- Exactly the spellings of ranges are read. -/
theorem parse_eq_ok_iff : parse text = .ok range ↔ Spells text range := by
  constructor
  · intro parsed
    simp only [parse] at parsed
    split at parsed
    · rename_i found read
      cases parsed
      split at read
      · rename_i offset length fileId split
        refine ⟨offset, length, fileId, ?_, ofFields?_eq_some_iff.mp read⟩
        rw [← split]
        exact (Text.intercalate_splitOn_toList ':' text).symm
      · cases read
    · cases parsed
  · rintro ⟨offset, length, fileId, rfl, fields⟩
    simp only [parse, fields.splitOn_eq, ofFields?_eq_some_iff.mpr fields]

/-- A text that is no range is reported as it is. -/
theorem error_of_parse {error : LookupError} (failed : parse text = .error error) :
    error = .invalidSourceRange text := by
  simp only [parse] at failed
  split at failed
  · cases failed
  · cases failed
    rfl

/-- Exactly the texts that spell no range are refused, and they are reported as they stand. -/
theorem parse_eq_error_iff {error : LookupError} :
    parse text = .error error ↔
      error = .invalidSourceRange text ∧ ∀ range, ¬Spells text range := by
  constructor
  · intro failed
    refine ⟨error_of_parse failed, fun range spelled => ?_⟩
    rw [parse_eq_ok_iff.mpr spelled] at failed
    cases failed
  · rintro ⟨rfl, unspelled⟩
    cases parsed : parse text with
    | ok range => exact absurd (parse_eq_ok_iff.mp parsed) (unspelled range)
    | error error => rw [error_of_parse parsed]

/-- A range is written as it was spelled exactly if that was in plain form. -/
theorem Spells.render_eq_iff (spelled : Spells text range) :
    range.render = text ↔ IsPlain text := by
  obtain ⟨offset, length, fileId, rfl, fields⟩ := spelled
  have found := congrArg (List.map String.toList) fields.splitOn_eq
  simp only [List.map_map, List.map_cons, List.map_nil] at found
  have pieces : (":".intercalate [offset, length, fileId]).toList.splitOn ':' =
      [offset.toList, length.toList, fileId.toList] := by
    rw [← found]
    simp [Function.comp_def]
  have plain : IsPlain (":".intercalate [offset, length, fileId]) ↔
      Text.IsPlainInteger offset.toList ∧ Text.IsPlainInteger length.toList ∧
        Text.IsPlainInteger fileId.toList := by
    rw [IsPlain, pieces]
    simp
  rw [plain, ← fields.offset.decimal_eq_iff, ← fields.length.decimal_eq_iff,
    ← fields.fileId.signedDecimal_eq_iff, render_eq_intercalate]
  constructor
  · intro same
    have split := range.hasFields_decimal.splitOn_eq
    rw [same, fields.splitOn_eq] at split
    simpa [eq_comm] using split
  · rintro ⟨first, second, third⟩
    rw [first, second, third]

end Texts

/-- Ranges are read by their grammar. A text is read exactly if it spells a range, and as that
range: three fields with colons between them, the first two an optional plus sign and digits of an
unsigned word, the third an optional sign and digits of a signed word. Any other text is reported as
it stands. A range is read back from the text it is written as, and a text that spells a range is
what the range is written as exactly if no field has a plus sign, a zero to leave out or a sign for
zero. -/
theorem parse_by_grammar (text : String) (range : SourceRange) :
    (parse text = .ok range ↔ Spells text range) ∧
      (∀ error, parse text = .error error ↔
        error = .invalidSourceRange text ∧ ∀ other, ¬Spells text other) ∧
      parse range.render = .ok range ∧
      (Spells text range → (range.render = text ↔ IsPlain text)) :=
  ⟨parse_eq_ok_iff, fun _ => parse_eq_error_iff, parse_eq_ok_iff.mpr range.spells_render,
    Spells.render_eq_iff⟩

/-- A plus sign, zeros in front and a sign for zero are read, but not written again. -/
theorem parse_by_grammar_padded :
    parse "+007:0:-0" = .ok ⟨7, 0, 0⟩ ∧ Spells "+007:0:-0" ⟨7, 0, 0⟩ ∧
    ¬IsPlain "+007:0:-0" ∧
      parse "7:0:0" = .ok ⟨7, 0, 0⟩ := by
  have parsed : parse "+007:0:-0" = .ok ⟨7, 0, 0⟩ := by decide +kernel
  have written : render ⟨7, 0, 0⟩ = "7:0:0" := by decide +kernel
  obtain ⟨read, -, back, plain⟩ := parse_by_grammar "+007:0:-0" ⟨7, 0, 0⟩
  have spelled := read.mp parsed
  refine ⟨parsed, spelled, ?_, ?_⟩
  · rw [← plain spelled, written]
    decide
  · rw [← written]
    exact back

end SourceRange

end SourceTrace

import SourceTrace.SourceMap.Resolve

/-!
# Source ranges of entries

The offset, length and file number of an entry are signed. They make a source range exactly if none
of them is negative; a negative file number is no fault but marks code without a source.
-/

namespace SourceTrace.SourceMap.Entry

/-- The first byte of the source range, where the offset is not negative. -/
def start (entry : Entry) : Nat :=
  entry.offset.toInt.toNat

/-- The number of bytes of the source range, where the length is not negative. -/
def extent (entry : Entry) : Nat :=
  entry.length.toInt.toNat

/-- The bytes that an entry points at in its file. -/
def span (entry : Entry) : SourceRange :=
  ⟨UInt64.ofNat entry.start, UInt64.ofNat entry.extent, entry.fileId⟩

/-- An entry points at a file: nothing of it is negative. -/
structure IsReal (entry : Entry) : Prop where
  fileId : 0 ≤ entry.fileId.toInt
  offset : 0 ≤ entry.offset.toInt
  length : 0 ≤ entry.length.toInt

/-- A signed number that is not negative keeps its value as an unsigned one. -/
theorem toNat_toUInt64_of_nonneg {value : Int64} (nonneg : 0 ≤ value.toInt) :
    value.toUInt64.toNat = value.toInt.toNat := by
  have bound : (value.toUInt64.toBitVec.toNat : Int) < 2 ^ 64 := by
    exact_mod_cast value.toUInt64.toBitVec.isLt
  have signed : value.toInt = value.toUInt64.toBitVec.toInt := rfl
  rw [signed, BitVec.toInt_eq_toNat_cond] at nonneg ⊢
  split at nonneg
  · rename_i small
    rw [if_pos small]
    rfl
  · omega

/-- Only a number that is not negative is a number of bytes. -/
theorem unsigned_eq_ok_iff (index : Nat) (field : Field) (value : Int64) (count : UInt64) :
    unsigned index field value = .ok count ↔
      0 ≤ value.toInt ∧ count = UInt64.ofNat value.toInt.toNat := by
  rw [unsigned]
  split
  · rename_i negative
    rw [Int64.lt_iff_toInt_lt] at negative
    simp only [reduceCtorEq, false_iff, not_and]
    intro nonneg
    exact absurd nonneg (Int.not_le.mpr negative)
  · rename_i notNegative
    rw [Int64.lt_iff_toInt_lt] at notNegative
    have nonneg : 0 ≤ value.toInt := Int.not_lt.mp notNegative
    rw [← toNat_toUInt64_of_nonneg nonneg, UInt64.ofNat_toNat, Except.ok.injEq]
    simp [nonneg, eq_comm]

/-- A number is no number of bytes only if it is negative, and then it is reported as it stands. -/
theorem unsigned_error {index : Nat} {field : Field} {value : Int64} {error : LookupError}
    (failed : unsigned index field value = .error error) :
    value.toInt < 0 ∧
      error = .invalidSourceMapEntry index field (Text.signedDecimal value.toInt) := by
  rw [unsigned] at failed
  split at failed
  · rename_i negative
    cases failed
    exact ⟨Int64.lt_iff_toInt_lt.mp negative, rfl⟩
  · cases failed

/-- Code is generated exactly if its file number is negative. -/
theorem isGenerated_eq_true_iff (entry : Entry) :
    entry.isGenerated = true ↔ entry.fileId.toInt < 0 := by
  rw [isGenerated, decide_eq_true_eq, Int64.lt_iff_toInt_lt]
  rfl

/-- An entry has a source range exactly if it points at a file. -/
theorem range_eq_ok_some_iff (entry : Entry) (index : Nat) (range : SourceRange) :
    entry.range index = .ok (some range) ↔ entry.IsReal ∧ range = entry.span := by
  constructor
  · intro ranged
    rw [Entry.range] at ranged
    split at ranged
    · cases ranged
    · rename_i fileReal
      rw [isGenerated_eq_true_iff] at fileReal
      split at ranged
      · cases ranged
      · cases ranged
      · rename_i offset length offsetFits lengthFits
        cases ranged
        rw [unsigned_eq_ok_iff] at offsetFits lengthFits
        refine ⟨⟨Int.not_lt.mp fileReal, offsetFits.1, lengthFits.1⟩, ?_⟩
        rw [offsetFits.2, lengthFits.2]
        rfl
  · rintro ⟨real, rfl⟩
    have fileReal : ¬entry.isGenerated = true := by
      rw [isGenerated_eq_true_iff]
      exact Int.not_lt.mpr real.fileId
    rw [Entry.range, if_neg fileReal,
      (unsigned_eq_ok_iff index .offset entry.offset _).mpr ⟨real.offset, rfl⟩,
      (unsigned_eq_ok_iff index .length entry.length _).mpr ⟨real.length, rfl⟩]
    rfl

/-- An entry of a real file has a negative offset or length, and the error reports it. -/
def IsNegative (entry : Entry) (index : Nat) (error : LookupError) : Prop :=
  0 ≤ entry.fileId.toInt ∧ ∃ field value,
    (field = .offset ∧ value = entry.offset ∨ field = .length ∧ value = entry.length) ∧
      value.toInt < 0 ∧
      error = .invalidSourceMapEntry index field (Text.signedDecimal value.toInt)

/-- The source range of an entry is faulty only if the offset or the length in a file is
negative. -/
theorem isNegative_of_range_error {entry : Entry} {index : Nat} {error : LookupError}
    (failed : entry.range index = .error error) : entry.IsNegative index error := by
  rw [Entry.range] at failed
  split at failed
  · cases failed
  · rename_i fileReal
    rw [isGenerated_eq_true_iff] at fileReal
    refine ⟨Int.not_lt.mp fileReal, ?_⟩
    split at failed
    · rename_i offsetFault
      cases failed
      exact ⟨.offset, entry.offset, Or.inl ⟨rfl, rfl⟩, unsigned_error offsetFault⟩
    · rename_i lengthFault
      cases failed
      exact ⟨.length, entry.length, Or.inr ⟨rfl, rfl⟩, unsigned_error lengthFault⟩
    · cases failed

end SourceTrace.SourceMap.Entry

import Mathlib.Data.Prod.Lex
import SourceTrace.Compiler.Version
import SourceTrace.Proofs.Text.Hexadecimal
import SourceTrace.Proofs.Text.Integers

/-!
# Versions are compared by their numbers

A text that spells a version has three numbers with points between them. Blanks and marks may stand
in front of them, and a suffix that a sign sets off behind them. The suffix may itself hold points,
numbers and signs; `IsSpelledBy.hasNumerals_versionCore` shows that nothing but the three numbers is
left to be read. `isSupported_compares_numbers` says that such texts are read, and that a version is
supported exactly if its numbers are at least those of the minimum in lexicographic order.
-/

namespace SourceTrace.Compiler

/-- A sign sets off what does not count in a version. -/
def IsSign (c : Char) : Prop :=
  c = '+' ∨ c = '-'

namespace Version

/-- The numbers of a version, compared one after another. -/
def key (version : Version) : ℕ ×ₗ ℕ ×ₗ ℕ :=
  toLex (version.major.toNat, toLex (version.minor.toNat, version.patch.toNat))

/-- Characters are the three numbers of a version with points between them. Zeros may stand in front
of each number. -/
def HasNumerals (version : Version) (chars : List Char) : Prop :=
  ∃ major minor patch, chars = ['.'].intercalate [major, minor, patch] ∧
    Text.IsDecimal major version.major.toNat ∧ Text.IsDecimal minor version.minor.toNat ∧
    Text.IsDecimal patch version.patch.toNat

/-- A text spells a version: between blank margins stand any number of marks `v`, the numbers, and
then nothing or a sign with anything behind it. -/
def IsSpelledBy (version : Version) (text : String) : Prop :=
  ∃ before marks numerals suffix after,
    text.toList = before ++ (marks ++ numerals ++ suffix) ++ after ∧
    (∀ c ∈ before, Text.isBlank c = true) ∧ (∀ c ∈ after, Text.isBlank c = true) ∧
    (∀ c ∈ marks, c = 'v') ∧ version.HasNumerals numerals ∧ ∀ c ∈ suffix.head?, IsSign c

/-- A version comes before another one exactly if its numbers do. -/
theorem isBefore_iff {first second : Version} :
    first.isBefore second = true ↔ first.key < second.key := by
  simp only [isBefore, key, Prod.Lex.toLex_lt_toLex, Bool.or_eq_true, Bool.and_eq_true,
    decide_eq_true_eq, UInt64.lt_iff_toNat_lt, ← UInt64.toNat_inj]

section Numerals

variable {version : Version} {numerals : List Char}

/-- A version has the numerals that its numbers are written with. -/
theorem hasNumerals_decimal (version : Version) :
    version.HasNumerals (".".intercalate [Text.decimal version.major.toNat,
      Text.decimal version.minor.toNat, Text.decimal version.patch.toNat]).toList := by
  have numeral (value : Nat) : Text.IsDecimal (Text.decimal value).toList value := by
    rw [Text.decimal, String.toList_ofList]
    exact Text.readNat?_eq_some_iff.mp (Text.readNat?_toDigits value)
  exact ⟨_, _, _, String.toList_intercalate, numeral _, numeral _, numeral _⟩

/-- A version is never written as nothing. -/
theorem HasNumerals.ne_nil (written : version.HasNumerals numerals) : numerals ≠ [] := by
  obtain ⟨major, minor, patch, rfl, -⟩ := written
  simp [List.intercalate]

/-- A version is written in digits and dots. -/
theorem HasNumerals.isDigit_or_eq (written : version.HasNumerals numerals) {c : Char}
    (mem : c ∈ numerals) : c.isDigit = true ∨ c = '.' := by
  obtain ⟨major, minor, patch, rfl, majorDigits, minorDigits, patchDigits⟩ := written
  simp only [List.intercalate_cons_cons, List.intercalate_singleton, List.mem_append,
    List.mem_singleton] at mem
  rcases mem with (inMajor | point) | (inMinor | point) | inPatch
  · exact Or.inl (majorDigits.digits c inMajor)
  · exact Or.inr point
  · exact Or.inl (minorDigits.digits c inMinor)
  · exact Or.inr point
  · exact Or.inl (patchDigits.digits c inPatch)

/-- Numbers and points are neither blanks nor marks nor signs. -/
theorem HasNumerals.isClear (written : version.HasNumerals numerals) {c : Char}
    (mem : c ∈ numerals) :
    Text.isBlank c = false ∧ c ≠ 'v' ∧ ¬IsSign c := by
  rcases written.isDigit_or_eq mem with digit | rfl
  · refine ⟨Text.isBlank_of_isDigit digit, ?_, ?_⟩
    · rintro rfl
      cases digit
    · rintro (rfl | rfl) <;> cases digit
  · exact ⟨rfl, by decide, by simp [IsSign]⟩

/-- The parts between the dots are read as the three numbers. -/
theorem HasNumerals.parts_eq (written : version.HasNumerals numerals) :
    (numerals.splitOn '.').map (fun part => Text.readUnsigned? (String.ofList part)) =
      [some version.major, some version.minor, some version.patch] := by
  obtain ⟨major, minor, patch, rfl, majorDigits, minorDigits, patchDigits⟩ := written
  have clear : ∀ part ∈ [major, minor, patch], '.' ∉ part := by
    simp [majorDigits.notMem, minorDigits.notMem, patchDigits.notMem, Char.isDigit]
  have read {digits : List Char} {word : UInt64} (numeral : Text.IsDecimal digits word.toNat) :
      Text.readUnsigned? (String.ofList digits) = some word :=
    Text.readUnsigned?_eq_some_iff.mpr ⟨digits, Or.inl String.toList_ofList, numeral⟩
  rw [List.splitOn_intercalate '.' clear (by simp)]
  simp [read majorDigits, read minorDigits, read patchDigits]

end Numerals

section Texts

variable {text : String} {version : Version}

/-- Trimming takes the margins away, and blanks at the end of the suffix. -/
theorem IsSpelledBy.exists_trim_eq (spelled : version.IsSpelledBy text) :
    ∃ marks numerals suffix, (Text.trim text).toList = marks ++ (numerals ++ suffix) ∧
      (∀ c ∈ marks, c = 'v') ∧ version.HasNumerals numerals ∧
      ∀ c ∈ suffix.head?, IsSign c := by
  obtain ⟨before, marks, numerals, suffix, after, split, blankBefore, blankAfter, marked, written,
    signed⟩ := spelled
  have unblank : ∀ c ∈ marks ++ numerals, Text.isBlank c = false := by
    intro c mem
    rcases List.mem_append.mp mem with inMarks | inNumerals
    · rw [marked c inMarks]
      rfl
    · exact (written.isClear inNumerals).1
  have started : Text.dropBlanks (before ++ (marks ++ numerals ++ suffix) ++ after) =
      marks ++ numerals ++ (suffix ++ after) := by
    rw [List.append_assoc, Text.dropBlanks_append blankBefore, List.append_assoc]
    apply Text.dropBlanks_eq_self
    intro c first
    rw [List.head?_append_of_ne_nil _ (by simp [written.ne_nil])] at first
    exact unblank c (List.mem_of_mem_head? first)
  refine ⟨marks, numerals, Text.dropBlanksEnd (suffix ++ after), ?_, marked, written, ?_⟩
  · rw [Text.trim, split, String.toList_ofList, started,
      Text.dropBlanksEnd_append_of_unblank unblank, List.append_assoc]
  · exact fun c first => signed c (Text.mem_head?_of_dropBlanksEnd_append blankAfter first)

/-- Nothing but the numbers is left of a text that spells a version. -/
theorem IsSpelledBy.hasNumerals_versionCore (spelled : version.IsSpelledBy text) :
    version.HasNumerals (versionCore text) := by
  obtain ⟨marks, numerals, suffix, trimmed, marked, written, signed⟩ := spelled.exists_trim_eq
  have unmarked : (marks ++ (numerals ++ suffix)).dropWhile (· = 'v') = numerals ++ suffix := by
    rw [List.dropWhile_append_of_pos (by simpa using marked)]
    obtain ⟨c, rest, rfl⟩ := List.exists_cons_of_ne_nil written.ne_nil
    simp [(written.isClear List.mem_cons_self).2.1]
  have cut : (numerals ++ suffix).takeWhile (fun c => c != '+' && c != '-') = numerals := by
    rw [List.takeWhile_append_of_pos]
    · cases suffix with
      | nil => simp
      | cons sign rest =>
        rcases signed sign rfl with rfl | rfl <;> simp
    · intro c mem
      have clear := (written.isClear mem).2.2
      simpa [IsSign] using clear
  rw [versionCore, trimmed, unmarked, cut]
  exact written

/-- A version is read from every text that spells it. -/
theorem parse?_of_isSpelledBy (spelled : version.IsSpelledBy text) :
    parse? text = some version := by
  rw [parse?, spelled.hasNumerals_versionCore.parts_eq]
  rfl

end Texts

end Version

/-- A version is refused exactly if it and the minimum are read and its numbers come before those of
the minimum. -/
theorem isSupported_eq_false_iff {text minimum : String} : isSupported text minimum = false ↔
    ∃ found required, Version.parse? text = some found ∧
    Version.parse? minimum = some required ∧
      found.key < required.key := by
  rw [isSupported]
  generalize Version.parse? text = read
  generalize Version.parse? minimum = readMinimum
  cases read with
  | none => simp
  | some found =>
    cases readMinimum with
    | none => simp
    | some required => simp [Version.isBefore_iff]

/-- Versions are compared by their numbers. The numerals of a version are those that its numbers are
written with, or the same with zeros in front; every text that spells the version with such numerals
is read as that version. Where version and minimum are such texts, the version is supported exactly
if its numbers are at least those of the minimum in lexicographic order. Where either of them cannot
be read, it is supported. -/
theorem isSupported_compares_numbers (text minimum : String) :
    (∀ version : Version, version.HasNumerals (".".intercalate [Text.decimal version.major.toNat,
      Text.decimal version.minor.toNat, Text.decimal version.patch.toNat]).toList) ∧
    (∀ version : Version, version.IsSpelledBy text → Version.parse? text = some version) ∧
    (∀ found required : Version, found.IsSpelledBy text → required.IsSpelledBy minimum →
      (isSupported text minimum = true ↔ required.key ≤ found.key)) ∧
    (Version.parse? text = none ∨ Version.parse? minimum = none →
      isSupported text minimum = true) := by
  refine ⟨Version.hasNumerals_decimal, fun version => Version.parse?_of_isSpelledBy, ?_, ?_⟩
  · intro found required spelled minimumSpelled
    rw [← Bool.not_eq_false, isSupported_eq_false_iff, Version.parse?_of_isSpelledBy spelled,
      Version.parse?_of_isSpelledBy minimumSpelled]
    simp
  · intro unread
    rw [← Bool.not_eq_false, isSupported_eq_false_iff]
    rintro ⟨found, required, read, readMinimum, -⟩
    simp [read, readMinimum] at unread

/-- Ten comes after nine, whatever the suffix says and however great the last number is. -/
theorem isSupported_compares_numbers_nightly :
    (⟨0, 10, 0⟩ : Version).IsSpelledBy " vv0.10.0-nightly.0.8+commit.1\n" ∧
      (⟨0, 9, 18446744073709551615⟩ : Version).IsSpelledBy "0.9.18446744073709551615" ∧
      Version.parse? " vv0.10.0-nightly.0.8+commit.1\n" = some ⟨0, 10, 0⟩ ∧
      isSupported " vv0.10.0-nightly.0.8+commit.1\n" "0.9.18446744073709551615" = true ∧
      Version.parse? "nightly" = none ∧
      isSupported "nightly" "0.9.18446744073709551615" = true := by
  have spelled : (⟨0, 10, 0⟩ : Version).IsSpelledBy " vv0.10.0-nightly.0.8+commit.1\n" :=
    ⟨[' '], ['v', 'v'], _, "-nightly.0.8+commit.1".toList, ['\n'], by decide,
      List.forall_mem_singleton.mpr rfl, List.forall_mem_singleton.mpr rfl, by simp,
      Version.hasNumerals_decimal _, by simp [IsSign]⟩
  have minimumSpelled : (⟨0, 9, 18446744073709551615⟩ : Version).IsSpelledBy
      "0.9.18446744073709551615" :=
    ⟨[], [], _, [], [], by decide +kernel, by simp, by simp, by simp,
      Version.hasNumerals_decimal _, by simp⟩
  have unread : Version.parse? "nightly" = none := by decide +kernel
  obtain ⟨-, reads, compares, -⟩ := isSupported_compares_numbers
    " vv0.10.0-nightly.0.8+commit.1\n" "0.9.18446744073709551615"
  refine ⟨spelled, minimumSpelled, reads _ spelled, ?_, unread, ?_⟩
  · rw [compares _ _ spelled minimumSpelled]
    decide
  · exact (isSupported_compares_numbers _ _).2.2.2 (Or.inl unread)

end SourceTrace.Compiler

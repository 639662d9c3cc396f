import Mathlib.Data.List.Forall2
import SourceTrace.Text.Blank
import SourceTrace.Text.Number

/-!
# Reading numerals back

Every machine integer is read back from its decimal numeral. The numerals hold only digits and at
most one minus sign in front, so that they can be put between separators.
-/

namespace SourceTrace.Text

/-- A digit is read as its value. -/
theorem decimalDigit?_of_isDigit {c : Char} (digit : c.isDigit = true) :
    decimalDigit? c = some (c.toNat - '0'.toNat) := by
  simp only [Char.isDigit, Bool.and_eq_true, decide_eq_true_eq] at digit
  rw [decimalDigit?, if_pos ⟨digit.1, digit.2⟩]

/-- A digit is no blank. -/
theorem isBlank_of_isDigit {c : Char} (digit : c.isDigit = true) : isBlank c = false := by
  simp only [Char.isDigit, Bool.and_eq_true, decide_eq_true_eq] at digit
  have low : 48 ≤ c.toNat := digit.1
  have high : c.toNat ≤ 57 := digit.2
  simp [isBlank]
  omega

/-- Items are all read exactly if each of them is. -/
theorem mapM_eq_some_iff {α β : Type} {read? : α → Option β} {items : List α}
    {results : List β} :
    items.mapM read? = some results ↔
      List.Forall₂ (fun item result => read? item = some result) items results := by
  induction items generalizing results with
  | nil => simp [eq_comm]
  | cons item rest inductionHypothesis =>
    rw [List.mapM_cons, List.forall₂_cons_left_iff]
    constructor
    · intro read
      obtain ⟨first, head, others⟩ := Option.bind_eq_some_iff.mp read
      obtain ⟨later, tail, whole⟩ := Option.bind_eq_some_iff.mp others
      exact ⟨first, later, head, inductionHypothesis.mp tail, (Option.some.inj whole).symm⟩
    · rintro ⟨first, later, head, tail, rfl⟩
      rw [head, inductionHypothesis.mpr tail]
      rfl

/-- Digits are read as their values. -/
theorem mapM_decimalDigit? {chars : List Char} (digits : ∀ c ∈ chars, c.isDigit = true) :
    chars.mapM decimalDigit? = some (chars.map fun c => c.toNat - '0'.toNat) := by
  induction chars with
  | nil => rfl
  | cons c rest inductionHypothesis =>
    have head := decimalDigit?_of_isDigit (digits c List.mem_cons_self)
    have tail := inductionHypothesis fun other mem => digits other (List.mem_cons_of_mem c mem)
    simp [head, tail]

/-- The value of digits is the one that the core library gives their characters. -/
theorem ofDigits_map (base value : Nat) (chars : List Char) :
    (chars.map fun c => c.toNat - '0'.toNat).foldl (fun value digit => value * base + digit) value =
      Nat.ofDigitChars base chars value := by
  rw [List.foldl_map, Nat.ofDigitChars_eq_foldl]
  simp only [Nat.mul_comm]

/-- A numeral is made of digits. -/
theorem isDigit_of_mem_toDigits {value : Nat} {c : Char} (mem : c ∈ Nat.toDigits 10 value) :
    c.isDigit = true :=
  Nat.isDigit_of_mem_toDigits (by decide) (by decide) mem

/-- A natural number is read back from its digits. -/
theorem readNat?_toDigits (value : Nat) : readNat? (Nat.toDigits 10 value) = some value := by
  have nonempty : (Nat.toDigits 10 value).isEmpty = false := by
    rw [List.isEmpty_eq_false_iff]
    exact Nat.toDigits_ne_nil
  rw [readNat?, readNumeral?, nonempty, mapM_decimalDigit? fun c mem => isDigit_of_mem_toDigits mem]
  simp only [Bool.false_eq_true, if_false, Option.map_some, Option.some.injEq]
  rw [ofDigits, ofDigits_map, Nat.ofDigitChars_ten_toDigits]

/-- Different numbers have different numerals. -/
theorem decimal_inj {first second : Nat} : decimal first = decimal second ↔ first = second := by
  constructor
  · intro same
    have digits : Nat.toDigits 10 first = Nat.toDigits 10 second := by
      simpa [decimal] using congrArg String.toList same
    have read := readNat?_toDigits first
    rw [digits, readNat?_toDigits] at read
    exact (Option.some.inj read).symm
  · rintro rfl
    rfl

/-- A numeral has no sign of its own. -/
theorem toDigits_ne_sign_cons (value : Nat) {sign : Char} (rest : List Char)
    (noDigit : sign.isDigit = false) : Nat.toDigits 10 value ≠ sign :: rest := by
  intro signed
  have mem : sign ∈ Nat.toDigits 10 value := by
    rw [signed]
    exact List.mem_cons_self
  rw [isDigit_of_mem_toDigits mem] at noDigit
  cases noDigit

/-- An unsigned word is read back from its numeral. -/
theorem readUnsigned?_decimal (value : UInt64) :
    readUnsigned? (decimal value.toNat) = some value := by
  have bound : value.toNat < UInt64.size := value.toNat_lt
  simp only [readUnsigned?, decimal, String.toList_ofList]
  split
  · rename_i rest signed
    exact absurd signed (toDigits_ne_sign_cons value.toNat rest (by decide))
  · rw [readNat?_toDigits]
    simp [bound]

/-- A signed word is read back from its numeral. -/
theorem readSigned?_signedDecimal (value : Int64) :
    readSigned? (signedDecimal value.toInt) = some value := by
  have low := Int64.le_toInt value
  have high := Int64.toInt_lt value
  simp only [signedDecimal]
  split
  · rename_i negative
    have fits : value.toInt.natAbs ≤ halfWord := by
      simp only [halfWord]
      omega
    have chars : ("-" ++ decimal value.toInt.natAbs).toList =
        '-' :: Nat.toDigits 10 value.toInt.natAbs := by
      simp [decimal]
    have back : -(value.toInt.natAbs : Int) = value.toInt := by omega
    simp only [readSigned?, chars]
    rw [readNat?_toDigits, Option.bind_some, if_pos fits, back, Int64.ofInt_toInt]
  · rename_i notNegative
    have fits : value.toInt.natAbs < halfWord := by
      simp only [halfWord]
      omega
    have back : (value.toInt.natAbs : Int) = value.toInt := by omega
    simp only [readSigned?, decimal, String.toList_ofList]
    split
    · rename_i rest signed
      exact absurd signed (toDigits_ne_sign_cons _ rest (by decide))
    · rename_i rest signed
      exact absurd signed (toDigits_ne_sign_cons _ rest (by decide))
    · rw [readNat?_toDigits, Option.bind_some, if_pos fits, back, Int64.ofInt_toInt]

/-- A number is written in digits. -/
theorem isDigit_of_mem_decimal {value : Nat} {c : Char} (mem : c ∈ (decimal value).toList) :
    c.isDigit = true := by
  rw [decimal, String.toList_ofList] at mem
  exact isDigit_of_mem_toDigits mem

/-- The characters of a signed numeral are digits and minus signs. -/
theorem isDigit_or_eq_of_mem_signedDecimal {value : Int} {c : Char}
    (mem : c ∈ (signedDecimal value).toList) : c.isDigit = true ∨ c = '-' := by
  rw [signedDecimal] at mem
  split at mem
  · rw [String.toList_append, List.mem_append] at mem
    rcases mem with sign | digit
    · exact Or.inr (List.mem_singleton.mp sign)
    · exact Or.inl (isDigit_of_mem_decimal digit)
  · exact Or.inl (isDigit_of_mem_decimal mem)

end SourceTrace.Text

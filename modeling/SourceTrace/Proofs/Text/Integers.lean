import Mathlib.Data.List.Induction
import SourceTrace.Proofs.Text.Numerals

/-!
# Texts of integers

Which texts are read as machine integers, and which of them are the ones that the integers are
written with. `readUnsigned?_eq_some_iff` and `readSigned?_eq_some_iff` give the grammar: an
optional sign and at least one digit, within bounds. `SpellsUnsigned.decimal_eq_iff` and
`SpellsSigned.signedDecimal_eq_iff` say that reading and writing again changes nothing exactly if
the text is in plain form.
-/

namespace SourceTrace.Text

/-- Characters are the decimal digits of a value: at least one of them, and zeros may stand in
front. -/
structure IsDecimal (chars : List Char) (value : Nat) : Prop where
  nonempty : chars ≠ []
  digits : ∀ c ∈ chars, c.isDigit = true
  value_eq : Nat.ofDigitChars 10 chars 0 = value

/-- A text spells an unsigned word: digits behind an optional plus sign. -/
def SpellsUnsigned (text : String) (value : UInt64) : Prop :=
  ∃ digits, (text.toList = digits ∨ text.toList = '+' :: digits) ∧
    IsDecimal digits value.toNat

/-- A text spells a signed word: digits behind an optional sign. -/
def SpellsSigned (text : String) (value : Int64) : Prop :=
  ∃ digits magnitude, IsDecimal digits magnitude ∧
    ((text.toList = digits ∨ text.toList = '+' :: digits) ∧ value.toInt = magnitude ∨
      text.toList = '-' :: digits ∧ value.toInt = -magnitude)

/-- Only digits are read as such. -/
theorem isDigit_of_decimalDigit? {c : Char} {digit : Nat} (read : decimalDigit? c = some digit) :
    c.isDigit = true := by
  rw [decimalDigit?] at read
  split at read
  · rename_i bounds
    simp only [Char.isDigit, Bool.and_eq_true, decide_eq_true_eq]
    exact bounds
  · cases read

/-- Characters that are all read as digits are digits. -/
theorem isDigit_of_mapM_decimalDigit? {chars : List Char} {digits : List Nat}
    (read : chars.mapM decimalDigit? = some digits) : ∀ c ∈ chars, c.isDigit = true := by
  rw [mapM_eq_some_iff] at read
  induction read with
  | nil => simp
  | cons head tail inductionHypothesis =>
    rw [List.forall_mem_cons]
    exact ⟨isDigit_of_decimalDigit? head, inductionHypothesis⟩

/-- Exactly decimal numerals are read, with their values. -/
theorem readNat?_eq_some_iff {chars : List Char} {value : Nat} :
    readNat? chars = some value ↔ IsDecimal chars value := by
  rw [readNat?, readNumeral?]
  constructor
  · intro read
    split at read
    · cases read
    · rename_i present
      obtain ⟨digits, mapped, total⟩ := Option.map_eq_some_iff.mp read
      have all := isDigit_of_mapM_decimalDigit? mapped
      rw [mapM_decimalDigit? all, Option.some.injEq] at mapped
      refine ⟨by simpa using present, all, ?_⟩
      rw [← ofDigits_map, mapped, ← total, ofDigits]
  · intro numeral
    have present : chars.isEmpty = false := List.isEmpty_eq_false_iff.mpr numeral.nonempty
    rw [present, mapM_decimalDigit? numeral.digits, ← numeral.value_eq, ← ofDigits_map]
    rfl

/-- A numeral does not begin with a sign. -/
theorem IsDecimal.ne_sign_cons {chars : List Char} {value : Nat} (numeral : IsDecimal chars value)
    {sign : Char} (noDigit : sign.isDigit = false) (rest : List Char) : chars ≠ sign :: rest := by
  rintro rfl
  rw [numeral.digits sign List.mem_cons_self] at noDigit
  cases noDigit

/-- Exactly the spellings of unsigned words are read. -/
theorem readUnsigned?_eq_some_iff {text : String} {value : UInt64} :
    readUnsigned? text = some value ↔ SpellsUnsigned text value := by
  have bounded (digits : List Char) : ((readNat? digits).bind fun number =>
      if number < UInt64.size then some (UInt64.ofNat number) else none) = some value ↔
        IsDecimal digits value.toNat := by
    rw [Option.bind_eq_some_iff]
    constructor
    · rintro ⟨number, read, fits⟩
      split at fits
      · rename_i small
        rw [← Option.some.inj fits, UInt64.toNat_ofNat_of_lt' small]
        exact readNat?_eq_some_iff.mp read
      · cases fits
    · intro numeral
      refine ⟨value.toNat, readNat?_eq_some_iff.mpr numeral, ?_⟩
      rw [if_pos value.toNat_lt, UInt64.ofNat_toNat]
  simp only [readUnsigned?]
  split
  · rename_i rest signed
    rw [bounded]
    constructor
    · exact fun numeral => ⟨rest, Or.inr signed, numeral⟩
    · rintro ⟨digits, unsigned | plus, numeral⟩
      · exact absurd (unsigned.symm.trans signed) (numeral.ne_sign_cons (by decide) rest)
      · rw [signed, List.cons.injEq] at plus
        rw [plus.2]
        exact numeral
  · rename_i unsigned
    rw [bounded]
    constructor
    · exact fun numeral => ⟨text.toList, Or.inl rfl, numeral⟩
    · rintro ⟨digits, rfl | plus, numeral⟩
      · exact numeral
      · exact absurd plus (unsigned digits)

/-- Digits are read within bounds exactly if they spell a value whose signed word exists. -/
theorem bind_readNat?_signed_eq_some_iff {within : Nat → Prop} [DecidablePred within]
    {signed : Nat → Int}
    (bounds : ∀ number, within number ↔
      -halfWord ≤ signed number ∧ signed number < halfWord)
    {digits : List Char} {value : Int64} :
    ((readNat? digits).bind fun number =>
        if within number then some (Int64.ofInt (signed number)) else none) = some value ↔
      ∃ magnitude, IsDecimal digits magnitude ∧ value.toInt = signed magnitude := by
  rw [Option.bind_eq_some_iff]
  constructor
  · rintro ⟨number, read, fits⟩
    split at fits
    · rename_i small
      obtain ⟨low, high⟩ := (bounds number).mp small
      refine ⟨number, readNat?_eq_some_iff.mp read, ?_⟩
      rw [← Option.some.inj fits, Int64.toInt_ofInt_of_le low high]
    · cases fits
  · rintro ⟨number, numeral, equal⟩
    have small : within number := by
      rw [bounds, ← equal]
      exact ⟨value.le_toInt, value.toInt_lt⟩
    refine ⟨number, readNat?_eq_some_iff.mpr numeral, ?_⟩
    rw [if_pos small, ← equal, Int64.ofInt_toInt]

/-- Exactly the spellings of signed words are read. -/
theorem readSigned?_eq_some_iff {text : String} {value : Int64} :
    readSigned? text = some value ↔ SpellsSigned text value := by
  have negative (digits : List Char) := @bind_readNat?_signed_eq_some_iff (· ≤ halfWord) _
    (fun number => -number) (by simp only [halfWord]; omega) digits value
  have positive (digits : List Char) := @bind_readNat?_signed_eq_some_iff (· < halfWord) _
    (fun number => number) (by omega) digits value
  simp only [readSigned?]
  split
  · rename_i rest minus
    rw [negative]
    constructor
    · rintro ⟨magnitude, numeral, equal⟩
      exact ⟨rest, magnitude, numeral, Or.inr ⟨minus, equal⟩⟩
    · rintro ⟨digits, magnitude, numeral, ⟨unsigned | plus, equal⟩ | ⟨signed, equal⟩⟩
      · exact absurd (unsigned.symm.trans minus) (numeral.ne_sign_cons (by decide) rest)
      · simp [minus] at plus
      · rw [minus, List.cons.injEq] at signed
        exact ⟨magnitude, signed.2 ▸ numeral, equal⟩
  · rename_i rest plus
    rw [positive]
    constructor
    · rintro ⟨magnitude, numeral, equal⟩
      exact ⟨rest, magnitude, numeral, Or.inl ⟨Or.inr plus, equal⟩⟩
    · rintro ⟨digits, magnitude, numeral, ⟨unsigned | signed, equal⟩ | ⟨minus, equal⟩⟩
      · exact absurd (unsigned.symm.trans plus) (numeral.ne_sign_cons (by decide) rest)
      · rw [plus, List.cons.injEq] at signed
        exact ⟨magnitude, signed.2 ▸ numeral, equal⟩
      · simp [plus] at minus
  · rename_i noMinus noPlus
    rw [positive]
    constructor
    · rintro ⟨magnitude, numeral, equal⟩
      exact ⟨text.toList, magnitude, numeral, Or.inl ⟨Or.inl rfl, equal⟩⟩
    · rintro ⟨digits, magnitude, numeral, ⟨rfl | plus, equal⟩ | ⟨minus, equal⟩⟩
      · exact ⟨magnitude, numeral, equal⟩
      · exact absurd plus (noPlus digits)
      · exact absurd minus (noMinus digits)

/-- A numeral has a zero that could be left out: one in front of other digits. -/
def HasLeadingZero (chars : List Char) : Prop :=
  ∃ c rest, chars = '0' :: c :: rest

/-- The digits of a positive number do not start with a zero. -/
theorem head?_toDigits_ne {value : Nat} (positive : 0 < value) :
    (Nat.toDigits 10 value).head? ≠ some '0' := by
  induction value using Nat.strongRecOn with
  | ind value inductionHypothesis =>
    by_cases single : value < 10
    · rw [Nat.toDigits_of_lt_base single]
      simpa using Nat.ne_of_gt positive
    · have several : 10 ≤ value := Nat.le_of_not_lt single
      rw [Nat.toDigits_of_base_le (by decide) several, List.head?_append,
        Option.or_of_isSome (List.isSome_head?.mpr Nat.toDigits_ne_nil)]
      exact inductionHypothesis (value / 10) (by omega) (by omega)

/-- A character that is a digit is the one of its value. -/
theorem digitChar_of_isDigit {c : Char} (digit : c.isDigit = true) :
    c.toNat - '0'.toNat < 10 ∧ (c.toNat - '0'.toNat).digitChar = c := by
  simp only [Char.isDigit, Bool.and_eq_true, decide_eq_true_eq] at digit
  have low : '0'.toNat ≤ c.toNat := digit.1
  have high : c.toNat ≤ '9'.toNat := digit.2
  have zero : '0'.toNat = 48 := rfl
  have nine : '9'.toNat = 57 := rfl
  have small : c.toNat - '0'.toNat < 10 := by omega
  refine ⟨small, Char.toNat_inj.mp ?_⟩
  rw [Nat.toNat_digitChar_of_lt_ten small]
  omega

/-- Digits with one more at their end spell the tenfold of their value and that digit. -/
theorem IsDecimal.of_append {front : List Char} {c : Char} {value : Nat}
    (numeral : IsDecimal (front ++ [c]) value) (present : front ≠ []) :
    ∃ before, IsDecimal front before ∧ value = 10 * before + (c.toNat - '0'.toNat) := by
  refine ⟨Nat.ofDigitChars 10 front 0, ⟨present, ?_, rfl⟩, ?_⟩
  · exact fun other mem => numeral.digits other (List.mem_append_left [c] mem)
  · rw [← numeral.value_eq, Nat.ofDigitChars_append, Nat.ofDigitChars_cons, Nat.ofDigitChars_nil]

/-- A numeral without a zero to leave out is the one that its value is written with. -/
theorem IsDecimal.toDigits_eq {chars : List Char} {value : Nat} (numeral : IsDecimal chars value)
    (plain : ¬HasLeadingZero chars) : Nat.toDigits 10 value = chars := by
  induction chars using List.reverseRecOn generalizing value with
  | nil => exact absurd rfl numeral.nonempty
  | append_singleton front c inductionHypothesis =>
    obtain ⟨small, back⟩ := digitChar_of_isDigit (numeral.digits c (by simp))
    by_cases single : front = []
    · subst single
      have total : value = c.toNat - '0'.toNat := by
        rw [← numeral.value_eq, List.nil_append, Nat.ofDigitChars_cons, Nat.ofDigitChars_nil]
        omega
      rw [total, Nat.toDigits_of_lt_base small, back, List.nil_append]
    · obtain ⟨before, frontNumeral, total⟩ := numeral.of_append single
      have frontPlain : ¬HasLeadingZero front := by
        rintro ⟨next, rest, rfl⟩
        exact plain ⟨next, rest ++ [c], rfl⟩
      have written := inductionHypothesis frontNumeral frontPlain
      have positive : 0 < before := by
        apply Nat.pos_of_ne_zero
        rintro rfl
        exact plain ⟨c, [], by rw [← written]; rfl⟩
      rw [total, ← Nat.toDigits_append_toDigits (by decide) positive small, written,
        Nat.toDigits_of_lt_base small, back]

/-- A number is written without a zero to leave out. -/
theorem not_hasLeadingZero_toDigits (value : Nat) : ¬HasLeadingZero (Nat.toDigits 10 value) := by
  rintro ⟨c, rest, written⟩
  by_cases zero : value = 0
  · subst zero
    cases written
  · exact head?_toDigits_ne (Nat.pos_of_ne_zero zero) (by rw [written]; rfl)

/-- An integer is written in plain form: without a plus sign, without a zero to leave out, and
without a sign for zero. -/
structure IsPlainInteger (chars : List Char) : Prop where
  noPlus : '+' ∉ chars
  noLeadingZero : ¬HasLeadingZero chars
  noZeroAfterMinus : ∀ digits, chars = '-' :: digits → ¬HasLeadingZero digits
  noNegativeZero : chars ≠ ['-', '0']

section Plain

variable {digits : List Char} {value : Nat}

/-- A numeral holds nothing but digits. -/
theorem IsDecimal.notMem (numeral : IsDecimal digits value) {c : Char}
    (noDigit : c.isDigit = false) :
    c ∉ digits := by
  intro mem
  rw [numeral.digits c mem] at noDigit
  cases noDigit

/-- A numeral is how its value is written exactly if it has no leading zero. -/
theorem IsDecimal.toDigits_eq_iff (numeral : IsDecimal digits value) :
    Nat.toDigits 10 value = digits ↔ ¬HasLeadingZero digits := by
  constructor
  · rintro rfl
    exact not_hasLeadingZero_toDigits value
  · exact numeral.toDigits_eq

/-- A numeral is a plain integer exactly if it has no leading zero. -/
theorem IsDecimal.isPlainInteger_iff (numeral : IsDecimal digits value) :
    IsPlainInteger digits ↔ ¬HasLeadingZero digits := by
  constructor
  · exact IsPlainInteger.noLeadingZero
  · intro plain
    refine ⟨numeral.notMem (by decide), plain, ?_, numeral.ne_sign_cons (by decide) ['0']⟩
    intro rest signed
    exact absurd signed (numeral.ne_sign_cons (by decide) rest)

/-- A numeral behind a minus sign is a plain integer exactly if it has no leading zero and is not
zero. -/
theorem IsDecimal.isPlainInteger_minus_iff (numeral : IsDecimal digits value) :
    IsPlainInteger ('-' :: digits) ↔ ¬HasLeadingZero digits ∧ value ≠ 0 := by
  constructor
  · intro plain
    have noZero := plain.noZeroAfterMinus digits rfl
    refine ⟨noZero, ?_⟩
    rintro rfl
    have written : digits = ['0'] := (numeral.toDigits_eq noZero).symm
    exact plain.noNegativeZero (by rw [written])
  · rintro ⟨noZero, nonzero⟩
    refine ⟨?_, ?_, ?_, ?_⟩
    · have absent : '+' ∉ digits := numeral.notMem (by decide)
      simp [absent]
    · rintro ⟨c, rest, zero⟩
      cases zero
    · rintro rest same
      rwa [← (List.cons.inj same).2]
    · intro same
      apply nonzero
      rw [← numeral.value_eq, (List.cons.inj same).2]
      rfl

end Plain

/-- A plain integer has no plus sign. -/
theorem isPlainInteger_plus (digits : List Char) : ¬IsPlainInteger ('+' :: digits) :=
  fun plain => plain.noPlus List.mem_cons_self

/-- An unsigned word is written as it was spelled exactly if that was in plain form. -/
theorem SpellsUnsigned.decimal_eq_iff {text : String} {value : UInt64}
    (spelled : SpellsUnsigned text value) :
    decimal value.toNat = text ↔ IsPlainInteger text.toList := by
  rw [← String.toList_inj, decimal, String.toList_ofList]
  obtain ⟨digits, unsigned | plus, numeral⟩ := spelled
  · rw [unsigned, numeral.toDigits_eq_iff, numeral.isPlainInteger_iff]
  · rw [plus]
    simp only [isPlainInteger_plus, iff_false]
    exact toDigits_ne_sign_cons value.toNat digits (by decide)

/-- A signed word is written as it was spelled exactly if that was in plain form. -/
theorem SpellsSigned.signedDecimal_eq_iff {text : String} {value : Int64}
    (spelled : SpellsSigned text value) :
    signedDecimal value.toInt = text ↔ IsPlainInteger text.toList := by
  obtain ⟨digits, magnitude, numeral, ⟨positive, equal⟩ | ⟨minus, equal⟩⟩ := spelled
  · have written : (signedDecimal value.toInt).toList = Nat.toDigits 10 magnitude := by
      have notNegative : ¬value.toInt < 0 := by omega
      rw [signedDecimal, if_neg notNegative, equal, Int.natAbs_natCast, decimal,
        String.toList_ofList]
    rw [← String.toList_inj, written]
    rcases positive with unsigned | plus
    · rw [unsigned, numeral.toDigits_eq_iff, numeral.isPlainInteger_iff]
    · rw [plus]
      simp only [isPlainInteger_plus, iff_false]
      exact toDigits_ne_sign_cons magnitude digits (by decide)
  · rw [← String.toList_inj, minus, numeral.isPlainInteger_minus_iff]
    by_cases zero : magnitude = 0
    · -- Zero is written without a sign, and its sign is not plain.
      subst zero
      simp [equal, signedDecimal, decimal]
    · have negative : value.toInt < 0 := by omega
      have written : (signedDecimal value.toInt).toList = '-' :: Nat.toDigits 10 magnitude := by
        rw [signedDecimal, if_pos negative, equal, Int.natAbs_neg, Int.natAbs_natCast]
        simp [decimal]
      rw [written, List.cons.injEq, numeral.toDigits_eq_iff]
      simp [zero]

end SourceTrace.Text

import Mathlib.Data.List.TakeWhile
import Mathlib.Data.Nat.Digits.Defs
import SourceTrace.Proofs.Text.Numerals
import SourceTrace.Text.Hex

/-!
# Hexadecimal numbers

A hexadecimal text is trimmed, and then one marker is taken from its front. `hasHexBody_iff` says
what is left, in terms of the text alone. `readHexNumber?_reads_numerals` is the grammar of
hexadecimal numbers: what is left has to be digits of either case, and it is their value that has to
fit into 64 bits, not their number.
-/

namespace SourceTrace.Text

/-- Characters are a core between blank margins; the core has no blank at its ends. -/
def HasCore (chars core : List Char) : Prop :=
  ∃ before after, chars = before ++ core ++ after ∧
    (∀ c ∈ before, isBlank c = true) ∧ (∀ c ∈ after, isBlank c = true) ∧
    (∀ c ∈ core.head?, isBlank c = false) ∧ ∀ c ∈ core.getLast?, isBlank c = false

/-- Characters behind a marker, or all of them where no marker stands in front. -/
inductive DropsMarker : List Char → List Char → Prop where
  | lower (digits : List Char) : DropsMarker ('0' :: 'x' :: digits) digits
  | upper (digits : List Char) : DropsMarker ('0' :: 'X' :: digits) digits
  | unmarked {digits : List Char} (noLower : ¬['0', 'x'] <+: digits)
      (noUpper : ¬['0', 'X'] <+: digits) : DropsMarker digits digits

/-- The body of a hexadecimal text: what remains without its blank margins and then without one
marker. -/
def HasHexBody (text : String) (digits : List Char) : Prop :=
  ∃ core, HasCore text.toList core ∧ DropsMarker core digits

section Margins

variable {chars core before after : List Char}

/-- Blanks in front are dropped. -/
theorem dropBlanks_append (blank : ∀ c ∈ before, isBlank c = true) (chars : List Char) :
    dropBlanks (before ++ chars) = dropBlanks chars :=
  List.dropWhile_append_of_pos blank

/-- Where there is no blank in front, nothing is dropped. -/
theorem dropBlanks_eq_self (unblank : ∀ c ∈ chars.head?, isBlank c = false) :
    dropBlanks chars = chars := by
  cases chars with
  | nil => rfl
  | cons c rest => simp [dropBlanks, unblank c rfl]

/-- What is left does not begin with a blank. -/
theorem head?_dropBlanks_ne {c : Char} (first : c ∈ (dropBlanks chars).head?) :
    isBlank c = false := by
  have all := head?_dropBlanks chars
  rw [Option.mem_def.mp first] at all
  simpa using all

/-- Blanks are dropped up to a part that has no blank at its end. -/
theorem dropBlanksEnd_append (unblank : ∀ c ∈ core.getLast?, isBlank c = false)
    (blank : ∀ c ∈ after, isBlank c = true) : dropBlanksEnd (core ++ after) = core := by
  have reversed : ∀ c ∈ after.reverse, isBlank c = true :=
    fun c mem => blank c (List.mem_reverse.mp mem)
  have kept : dropBlanks core.reverse = core.reverse := by
    apply dropBlanks_eq_self
    rwa [List.head?_reverse]
  rw [dropBlanksEnd, List.reverse_append, dropBlanks_append reversed, kept, List.reverse_reverse]

/-- Characters are those without blanks at their end, and blanks. -/
theorem exists_dropBlanksEnd_append (chars : List Char) :
    ∃ after, chars = dropBlanksEnd chars ++ after ∧ ∀ c ∈ after, isBlank c = true := by
  refine ⟨(chars.reverse.takeWhile isBlank).reverse, ?_, ?_⟩
  · rw [dropBlanksEnd, dropBlanks, ← List.reverse_append, List.takeWhile_append_dropWhile,
      List.reverse_reverse]
  · intro c mem
    exact List.mem_takeWhile_imp (List.mem_reverse.mp mem)

/-- What is left does not end with a blank. -/
theorem getLast?_dropBlanksEnd_ne {c : Char} (last : c ∈ (dropBlanksEnd chars).getLast?) :
    isBlank c = false := by
  rw [dropBlanksEnd, List.getLast?_reverse] at last
  exact head?_dropBlanks_ne last

/-- Blanks are dropped behind a part that holds none, and that part stays. -/
theorem dropBlanksEnd_append_of_unblank (unblank : ∀ c ∈ core, isBlank c = false)
    (chars : List Char) : dropBlanksEnd (core ++ chars) = core ++ dropBlanksEnd chars := by
  obtain ⟨after, ends, blank⟩ := exists_dropBlanksEnd_append chars
  have last : ∀ c ∈ (core ++ dropBlanksEnd chars).getLast?, isBlank c = false := by
    intro c last
    rw [List.getLast?_append, Option.mem_def, Option.or_eq_some_iff] at last
    rcases last with kept | ⟨-, inCore⟩
    · exact getLast?_dropBlanksEnd_ne kept
    · exact unblank c (List.mem_of_mem_getLast? inCore)
  have dropped := dropBlanksEnd_append last blank
  rwa [List.append_assoc, ← ends] at dropped

/-- What is left before blanks starts like the part before them. -/
theorem mem_head?_of_dropBlanksEnd_append (blank : ∀ c ∈ after, isBlank c = true) {c : Char}
    (first : c ∈ (dropBlanksEnd (chars ++ after)).head?) : c ∈ chars.head? := by
  cases chars with
  | nil =>
    have gone := @dropBlanksEnd_append [] after (by simp) blank
    rw [gone] at first
    cases first
  | cons head rest =>
    obtain ⟨dropped, ends, -⟩ := exists_dropBlanksEnd_append (head :: rest ++ after)
    have kept := congrArg List.head? ends
    rwa [@List.head?_append _ dropped, Option.mem_def.mp first] at kept

/-- The core of a text is what is left without the blanks at both ends. -/
theorem hasCore_trimmed (chars : List Char) : HasCore chars (dropBlanksEnd (dropBlanks chars)) := by
  obtain ⟨after, ends, blank⟩ := exists_dropBlanksEnd_append (dropBlanks chars)
  refine ⟨chars.takeWhile isBlank, after, ?_, fun c => List.mem_takeWhile_imp, blank, ?_, ?_⟩
  · rw [List.append_assoc, ← ends, dropBlanks, List.takeWhile_append_dropWhile]
  · intro c first
    apply @head?_dropBlanks_ne chars
    rw [ends, List.head?_append, Option.mem_def.mp first]
    rfl
  · exact fun c => getLast?_dropBlanksEnd_ne

/-- The core of characters is what trimming leaves. -/
theorem hasCore_iff : HasCore chars core ↔ dropBlanksEnd (dropBlanks chars) = core := by
  constructor
  · rintro ⟨before, after, rfl, blankBefore, blankAfter, first, last⟩
    rw [List.append_assoc, dropBlanks_append blankBefore]
    by_cases empty : core = []
    · subst empty
      have gone := dropBlanks_append blankAfter []
      rw [List.append_nil] at gone
      rw [List.nil_append, gone]
      rfl
    · have kept : dropBlanks (core ++ after) = core ++ after := by
        apply dropBlanks_eq_self
        rwa [List.head?_append_of_ne_nil core empty]
      rw [kept, dropBlanksEnd_append last blankAfter]
  · rintro rfl
    exact hasCore_trimmed chars

/-- A marker is dropped at most once, as the reader does it. -/
theorem dropsMarker_iff {digits : List Char} :
    DropsMarker core digits ↔ dropHexMarker core = digits := by
  constructor
  · intro drops
    cases drops with
    | lower => rfl
    | upper => rfl
    | unmarked noLower noUpper =>
      unfold dropHexMarker
      split
      · exact absurd ⟨_, rfl⟩ noLower
      · exact absurd ⟨_, rfl⟩ noUpper
      · rfl
  · rintro rfl
    unfold dropHexMarker
    split
    · exact .lower _
    · exact .upper _
    · rename_i noLower noUpper
      refine .unmarked ?_ ?_
      · rintro ⟨rest, rfl⟩
        exact noLower rest rfl
      · rintro ⟨rest, rfl⟩
        exact noUpper rest rfl

/-- Each text has one body, and the digits that are read are its characters. -/
theorem hasHexBody_iff {text : String} {digits : List Char} :
    HasHexBody text digits ↔ digits = (hexDigits text).toList := by
  simp only [HasHexBody, hasCore_iff, dropsMarker_iff, exists_eq_left', hexDigits, stripHexMarker,
    trim, String.toList_ofList]
  exact eq_comm

end Margins

section Digits

/-- A character is the hexadecimal digit of a value, in lower or in upper case. -/
def IsHexDigit (c : Char) (value : Nat) : Prop :=
  "0123456789abcdef".toList[value]? = some c ∨ "0123456789ABCDEF".toList[value]? = some c

/-- Whether a character is a hexadecimal digit with a value can be decided. -/
instance (c : Char) (value : Nat) : Decidable (IsHexDigit c value) :=
  inferInstanceAs (Decidable (_ ∨ _))

variable {c : Char} {value : Nat}

/-- The value of a hexadecimal digit is below 16. -/
theorem IsHexDigit.lt (digit : IsHexDigit c value) : value < 16 := by
  rcases digit with lower | upper
  · exact (List.getElem?_eq_some_iff.mp lower).1
  · exact (List.getElem?_eq_some_iff.mp upper).1

/-- A hexadecimal digit is an ASCII character. -/
theorem toNat_lt_of_hexDigit? (read : hexDigit? c = some value) : c.toNat < 128 := by
  have ends : ∀ last : Char, last.toNat < 128 → c ≤ last → c.toNat < 128 :=
    fun last ascii below => Nat.lt_of_le_of_lt below ascii
  simp only [hexDigit?] at read
  split at read
  · rename_i bounds
    exact ends '9' (by decide) bounds.2
  · split at read
    · rename_i bounds
      exact ends 'f' (by decide) bounds.2
    · split at read
      · rename_i bounds
        exact ends 'F' (by decide) bounds.2
      · cases read

/-- Exactly the sixteen digits of either case are read, with their values. -/
theorem hexDigit?_eq_some_iff : hexDigit? c = some value ↔ IsHexDigit c value := by
  constructor
  · intro read
    have checked : ∀ code < 128, (hexDigit? (Char.ofNat code)).all
        (fun value => IsHexDigit (Char.ofNat code) value) = true := by decide +kernel
    have found := checked c.toNat (toNat_lt_of_hexDigit? read)
    rw [Char.ofNat_toNat, read] at found
    simpa using found
  · intro digit
    have checked :
        ∀ value < 16, ("0123456789abcdef".toList[value]?).bind hexDigit? = some value ∧
        ("0123456789ABCDEF".toList[value]?).bind hexDigit? = some value := by decide
    obtain ⟨inLower, inUpper⟩ := checked value digit.lt
    rcases digit with lower | upper
    · rwa [lower] at inLower
    · rwa [upper] at inUpper

/-- A digit is neither blank nor part of a marker. -/
theorem IsHexDigit.isBlank_eq_false (digit : IsHexDigit c value) :
    isBlank c = false ∧ c ≠ 'x' ∧ c ≠ 'X' := by
  have checked : ("0123456789abcdef".toList ++ "0123456789ABCDEF".toList).all
      (fun c => isBlank c = false ∧ c ≠ 'x' ∧ c ≠ 'X') = true := by decide
  have member : c ∈ "0123456789abcdef".toList ++ "0123456789ABCDEF".toList := by
    rcases digit with lower | upper
    · exact List.mem_append_left _ (List.mem_of_getElem? lower)
    · exact List.mem_append_right _ (List.mem_of_getElem? upper)
  exact of_decide_eq_true (List.all_eq_true.mp checked c member)

end Digits

section Numerals

/-- Characters are the hexadecimal digits of a value: at least one of them, and zeros may stand in
front. -/
def IsHexNumeral (chars : List Char) (value : Nat) : Prop :=
  chars ≠ [] ∧ ∃ digits, List.Forall₂ IsHexDigit chars digits ∧
    Nat.ofDigits 16 digits.reverse = value

variable {chars : List Char} {value : Nat}

/-- The value of digits, with the most significant one in front. -/
theorem ofDigits_eq_ofDigits_reverse (base : Nat) (digits : List Nat) :
    ofDigits base digits = Nat.ofDigits base digits.reverse := by
  rw [Nat.ofDigits_eq_foldr, List.foldr_reverse, ofDigits]
  simp only [Nat.cast_id, Nat.add_comm, Nat.mul_comm]

/-- Exactly hexadecimal numerals are read, with their values. -/
theorem readNumeral?_hexDigit?_eq_some_iff :
    readNumeral? hexDigit? 16 chars = some value ↔ IsHexNumeral chars value := by
  rw [readNumeral?, IsHexNumeral]
  by_cases empty : chars = []
  · simp [empty]
  · simp only [List.isEmpty_iff, empty, if_false, Option.map_eq_some_iff, mapM_eq_some_iff,
      hexDigit?_eq_some_iff, ofDigits_eq_ofDigits_reverse]
    exact (and_iff_right empty).symm

/-- One more digit at the end makes the sixteenfold of the value and that digit. -/
theorem IsHexNumeral.append (numeral : IsHexNumeral chars value) {c : Char} {digit : Nat}
    (more : IsHexDigit c digit) : IsHexNumeral (chars ++ [c]) (16 * value + digit) := by
  obtain ⟨present, digits, each, total⟩ := numeral
  refine ⟨by simp, digits ++ [digit], List.rel_append each (.cons more .nil), ?_⟩
  rw [List.reverse_append, List.reverse_singleton, List.singleton_append, Nat.ofDigits_cons, total]
  omega

/-- A number is written as a numeral of its value. -/
theorem isHexNumeral_toDigits (value : Nat) : IsHexNumeral (Nat.toDigits 16 value) value := by
  have written : ∀ digit < 16, IsHexDigit digit.digitChar digit := by decide
  induction value using Nat.strongRecOn with
  | ind value inductionHypothesis =>
    by_cases single : value < 16
    · rw [Nat.toDigits_of_lt_base single]
      exact ⟨by simp, [value], .cons (written value single) .nil, by simp⟩
    · have several : 16 ≤ value := Nat.le_of_not_lt single
      have front := inductionHypothesis (value / 16) (by omega)
      have whole := front.append (written (value % 16) (Nat.mod_lt value (by decide)))
      rwa [Nat.div_add_mod, ← Nat.toDigits_of_base_le (by decide) several] at whole

/-- A hexadecimal numeral is made of hexadecimal digits. -/
theorem IsHexNumeral.exists_isHexDigit (numeral : IsHexNumeral chars value) :
    ∀ c ∈ chars, ∃ digit, IsHexDigit c digit := by
  obtain ⟨-, digits, each, -⟩ := numeral
  induction each with
  | nil => simp
  | cons head tail inductionHypothesis =>
    rw [List.forall_mem_cons]
    exact ⟨⟨_, head⟩, inductionHypothesis⟩

end Numerals

/-- A text wraps characters: blank margins around them, and a marker in front of them or not. -/
def Wraps (text : String) (digits : List Char) : Prop :=
  ∃ before marker after, text.toList = before ++ (marker ++ digits) ++ after ∧
    (∀ c ∈ before, isBlank c = true) ∧ (∀ c ∈ after, isBlank c = true) ∧
    (marker = [] ∨ marker = ['0', 'x'] ∨ marker = ['0', 'X'])

/-- The body of a text that wraps digits is these digits: they hold neither blanks nor a second
marker. -/
theorem Wraps.hasHexBody {text : String} {digits : List Char} (wraps : Wraps text digits)
    (all : ∀ c ∈ digits, ∃ value, IsHexDigit c value) : HasHexBody text digits := by
  obtain ⟨before, marker, after, split, blankBefore, blankAfter, known⟩ := wraps
  have markerUnblank : ∀ c ∈ marker, isBlank c = false := by
    rcases known with rfl | rfl | rfl <;> simp [isBlank]
  have unblank : ∀ c ∈ marker ++ digits, isBlank c = false := by
    intro c mem
    rcases List.mem_append.mp mem with inMarker | inDigits
    · exact markerUnblank c inMarker
    · obtain ⟨value, digit⟩ := all c inDigits
      exact digit.isBlank_eq_false.1
  have unmarked : 'x' ∉ digits ∧ 'X' ∉ digits := by
    constructor
    · intro mem
      obtain ⟨value, digit⟩ := all _ mem
      exact digit.isBlank_eq_false.2.1 rfl
    · intro mem
      obtain ⟨value, digit⟩ := all _ mem
      exact digit.isBlank_eq_false.2.2 rfl
  refine ⟨marker ++ digits, ⟨before, after, split, blankBefore, blankAfter, ?_, ?_⟩, ?_⟩
  · exact fun c first => unblank c (List.mem_of_mem_head? first)
  · exact fun c last => unblank c (List.mem_of_mem_getLast? last)
  · rcases known with rfl | rfl | rfl
    · refine .unmarked ?_ ?_
      · exact fun front => unmarked.1 (front.subset (by simp))
      · exact fun front => unmarked.2 (front.subset (by simp))
    · exact .lower digits
    · exact .upper digits

/-- A text is read as the value of its digits, if that has 64 bits. -/
theorem readHexNumber?_eq_some_iff {text : String} {digits : List Char}
    (body : HasHexBody text digits) {value : Nat} :
    readHexNumber? text = some value ↔ IsHexNumeral digits value ∧ value < 2 ^ 64 := by
  rw [hasHexBody_iff] at body
  rw [readHexNumber?, ← body, Option.bind_eq_some_iff]
  simp only [readNumeral?_hexDigit?_eq_some_iff]
  constructor
  · rintro ⟨number, numeral, fits⟩
    split at fits
    · rename_i small
      obtain rfl := Option.some.inj fits
      exact ⟨numeral, small⟩
    · cases fits
  · rintro ⟨numeral, small⟩
    exact ⟨value, numeral, if_pos small⟩

/-- Hexadecimal numbers are read by their grammar. Every text has one body, which is the text
without blank margins and then without one marker. It is read exactly if that body is at least one
digit, of either case and with any number of zeros in front, and if their value has 64 bits; this
value is what is read. In particular a word is read back from its own numeral, with or without
margins and a marker. -/
theorem readHexNumber?_reads_numerals (text : String) :
    (∃ digits, (∀ other, HasHexBody text other ↔ other = digits) ∧
      ∀ value, readHexNumber? text = some value ↔
        IsHexNumeral digits value ∧ value < 2 ^ 64) ∧
    ∀ word : UInt64, Wraps text (hexadecimal word.toNat).toList →
      readHexNumber? text = some word.toNat := by
  constructor
  · refine ⟨(hexDigits text).toList, fun other => hasHexBody_iff, fun value => ?_⟩
    exact readHexNumber?_eq_some_iff (hasHexBody_iff.mpr rfl)
  · intro word wraps
    rw [hexadecimal, String.toList_ofList] at wraps
    have numeral := isHexNumeral_toDigits word.toNat
    rw [readHexNumber?_eq_some_iff (wraps.hasHexBody numeral.exists_isHexDigit)]
    exact ⟨numeral, word.toNat_lt⟩

/-- Margins and a marker do not matter, and neither do zeros in front: more than sixteen digits are
read if their value is small. -/
theorem readHexNumber?_reads_numerals_padded :
    readHexNumber? "\t0Xff\u3000" = some 255 ∧
      IsHexNumeral "000000000000000000fF".toList 255 ∧
      readHexNumber? "000000000000000000fF" = some 255 := by
  have wraps : Wraps "\t0Xff\u3000" (hexadecimal (UInt64.ofNat 255).toNat).toList :=
    ⟨['\t'], ['0', 'X'], ['\u3000'], by decide, List.forall_mem_singleton.mpr rfl,
      List.forall_mem_singleton.mpr rfl, by decide⟩
  have padded : readHexNumber? "000000000000000000fF" = some 255 := by decide +kernel
  refine ⟨(readHexNumber?_reads_numerals _).2 _ wraps, ?_, padded⟩
  obtain ⟨⟨digits, body, read⟩, -⟩ := readHexNumber?_reads_numerals "000000000000000000fF"
  have found : digits = "000000000000000000fF".toList := by
    rw [← (body _).mp (hasHexBody_iff.mpr rfl)]
    decide +kernel
  rw [← found]
  exact ((read 255).mp padded).1

end SourceTrace.Text

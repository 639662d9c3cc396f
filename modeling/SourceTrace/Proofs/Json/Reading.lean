import SourceTrace.Json.Parser
import SourceTrace.Proofs.Json.Keys
import SourceTrace.Proofs.Json.Lines

/-!
# Reading compact documents back

`Json.parse?_render` shows that a value is read back from its compact document if its numbers are
integers of 64 bits, no object in it has a key twice and it is not nested too deeply. A text comes
back escape by escape. A number comes back because it is followed by the end of the document, a
comma or a closing bracket, and so does not run into what follows. What is nested comes back because
the reader has two steps left for each character.
-/

namespace SourceTrace.Json

section Texts

/-- The unit of a control character is no half of a pair and stands for the character. -/
theorem joinPieces_unit_cons {c : Char} (control : c.toNat < 0x20) (pieces : List Piece) :
    joinPieces (.unit c.toNat :: pieces) = (joinPieces pieces).map (c :: ·) := by
  have noHigh : isHighHalf c.toNat = false := by
    simp only [isHighHalf, Bool.and_eq_false_imp, decide_eq_true_eq]
    omega
  have noLow : isLowHalf c.toNat = false := by
    simp only [isLowHalf, Bool.and_eq_false_imp, decide_eq_true_eq]
    omega
  rcases pieces with _ | ⟨piece, rest⟩
  · simp [joinPieces, noHigh, noLow]
  · cases piece <;> simp [joinPieces, noHigh, noLow]

/-- The escape of a character is read as one piece, and this piece stands for the character. -/
theorem exists_piece_escapeChar (c : Char) :
    ∃ piece, (∀ rest, readPieces (escapeChar c ++ rest) =
        (readPieces rest).map fun (pieces, after) => (piece :: pieces, after)) ∧
      ∀ pieces, joinPieces (piece :: pieces) = (joinPieces pieces).map (c :: ·) := by
  by_cases short : c ∈ ['"', '\\', '\x08', '\x0c', '\n', '\r', '\t']
  · refine ⟨.char c, fun rest => ?_, fun pieces => by rw [joinPieces]⟩
    simp only [List.mem_cons, List.not_mem_nil, or_false] at short
    rcases short with rfl | rfl | rfl | rfl | rfl | rfl | rfl <;>
      simp [escapeChar, readPieces, shortEscape?]
  · simp only [List.mem_cons, List.not_mem_nil, or_false, not_or] at short
    obtain ⟨noQuote, noBackslash, short⟩ := short
    by_cases control : c.toNat < 0x20
    · have spelled : ∀ code < 0x20,
          Text.readNumeral? Text.hexDigit? 16 (Text.fixedDigits 16 4 code) = some code := by decide
      have read := spelled c.toNat control
      have escape : escapeChar c = '\\' :: 'u' :: Text.fixedDigits 16 4 c.toNat := by
        simp [escapeChar, noQuote, noBackslash, short, control]
      refine ⟨.unit c.toNat, fun rest => ?_, joinPieces_unit_cons control⟩
      rw [escape]
      simp only [Text.fixedDigits, List.nil_append, List.cons_append] at read ⊢
      simp only [readPieces, read]
    · have escape : escapeChar c = [c] := by
        simp [escapeChar, noQuote, noBackslash, short, control]
      refine ⟨.char c, fun rest => ?_, fun pieces => by rw [joinPieces]⟩
      rw [escape, List.singleton_append, readPieces.eq_def]
      split <;> grind

/-- A text is read back from its escapes, up to the closing quote. -/
theorem readText_flatMap_escapeChar (chars rest : List Char) :
    readText (chars.flatMap escapeChar ++ '"' :: rest) =
      some (some (String.ofList chars), rest) := by
  suffices read : ∃ pieces,
      readPieces (chars.flatMap escapeChar ++ '"' :: rest) = some (pieces, rest) ∧
        joinPieces pieces = some chars by
    obtain ⟨pieces, read, joined⟩ := read
    simp [readText, read, joined]
  induction chars with
  | nil => exact ⟨[], rfl, rfl⟩
  | cons c chars inductionHypothesis =>
    obtain ⟨piece, pieceRead, pieceJoined⟩ := exists_piece_escapeChar c
    obtain ⟨pieces, read, joined⟩ := inductionHypothesis
    refine ⟨piece :: pieces, ?_, ?_⟩
    · rw [List.flatMap_cons, List.append_assoc, pieceRead, read, Option.map_some]
    · rw [pieceJoined, joined, Option.map_some]

/-- A text is written as its escaped characters between quotes. -/
theorem toList_renderText_append (text : String) (rest : List Char) :
    (renderText text).toList ++ rest = '"' :: (text.toList.flatMap escapeChar ++ '"' :: rest) := by
  simp [renderText]

end Texts

/-- Characters that may follow a value: none, or a comma or a closing bracket first. -/
def Delimited (rest : List Char) : Prop :=
  rest = [] ∨ ∃ c after, rest = c :: after ∧ (c = ',' ∨ c = ']' ∨ c = '\x7d')

section Numbers

/-- The digits of a natural number. -/
def digitsOf (value : Nat) : List Nat :=
  (Nat.toDigits 10 value).map fun c => c.toNat - '0'.toNat

/-- A number below ten has one digit. -/
theorem digitsOf_of_lt {value : Nat} (single : value < 10) : digitsOf value = [value] := by
  have digit : ∀ value < 10, value.digitChar.toNat - '0'.toNat = value := by decide
  rw [digitsOf, Nat.toDigits_of_lt_base single, List.map_singleton, digit value single]

/-- A number from ten on has the digits of its tenth, and one more. -/
theorem digitsOf_of_le {value : Nat} (several : 10 ≤ value) :
    digitsOf value = digitsOf (value / 10) ++ [value % 10] := by
  have last : value % 10 < 10 := Nat.mod_lt value (by decide)
  rw [← digitsOf_of_lt last, digitsOf, Nat.toDigits_of_base_le (by decide) several,
    List.map_append, digitsOf, digitsOf, Nat.toDigits_of_lt_base last]

/-- Every number has a digit. -/
theorem digitsOf_ne_nil (value : Nat) : digitsOf value ≠ [] := by
  rw [digitsOf, ne_eq, List.map_eq_nil_iff]
  exact Nat.toDigits_ne_nil

/-- The digits of a number have its value. -/
theorem ofDigits_digitsOf (value : Nat) : Text.ofDigits 10 (digitsOf value) = value := by
  rw [Text.ofDigits, digitsOf, Text.ofDigits_map, Nat.ofDigitChars_ten_toDigits]

/-- No zero stands in front of the other digits. -/
theorem head?_digitsOf_ne {value : Nat} (positive : 0 < value) :
    (digitsOf value).head? ≠ some 0 := by
  induction value using Nat.strongRecOn with
  | ind value inductionHypothesis =>
    by_cases single : value < 10
    · rw [digitsOf_of_lt single]
      simp only [List.head?_cons, ne_eq, Option.some.injEq]
      omega
    · rw [digitsOf_of_le (Nat.le_of_not_lt single), List.head?_append,
        Option.or_of_isSome (List.isSome_head?.mpr (digitsOf_ne_nil _))]
      exact inductionHypothesis (value / 10) (by omega) (by omega)

/-- The reader takes the digits of a number for its whole part. -/
theorem isWhole_digitsOf (value : Nat) :
    ((digitsOf value).isEmpty ||
      ((digitsOf value).head? == some 0 && 1 < (digitsOf value).length)) =
      false := by
  rw [Bool.or_eq_false_iff]
  refine ⟨List.isEmpty_eq_false_iff.mpr (digitsOf_ne_nil value), ?_⟩
  by_cases zero : value = 0
  · rw [zero]
    decide
  · simp [head?_digitsOf_ne (Nat.pos_of_ne_zero zero)]

/-- All digits are read, each as its value. -/
theorem filterMap_decimalDigit? {chars : List Char} (digits : ∀ c ∈ chars, c.isDigit = true) :
    chars.filterMap Text.decimalDigit? = chars.map fun c => c.toNat - '0'.toNat := by
  induction chars with
  | nil => rfl
  | cons c rest inductionHypothesis =>
    have head := Text.decimalDigit?_of_isDigit (digits c List.mem_cons_self)
    have tail := inductionHypothesis fun other mem => digits other (List.mem_cons_of_mem c mem)
    rw [List.filterMap_cons_some head, tail, List.map_cons]

/-- The digits of a number are read up to the delimiter. -/
theorem readDigits_toDigits (value : Nat) {rest : List Char} (delimited : Delimited rest) :
    readDigits (Nat.toDigits 10 value ++ rest) = (digitsOf value, rest) := by
  have digits : ∀ c ∈ Nat.toDigits 10 value, (Text.decimalDigit? c).isSome = true := by
    intro c mem
    rw [Text.decimalDigit?_of_isDigit (Text.isDigit_of_mem_toDigits mem), Option.isSome_some]
  have ends : rest.takeWhile (fun c => (Text.decimalDigit? c).isSome) = [] ∧
      rest.dropWhile (fun c => (Text.decimalDigit? c).isSome) = rest := by
    rcases delimited with rfl | ⟨c, after, rfl, rfl | rfl | rfl⟩ <;> exact ⟨rfl, rfl⟩
  rw [readDigits, List.takeWhile_append_of_pos digits, List.dropWhile_append_of_pos digits, ends.1,
    ends.2, List.append_nil, filterMap_decimalDigit? fun c mem => Text.isDigit_of_mem_toDigits mem,
    digitsOf]

/-- A number is read from its numeral, up to the delimiter. -/
theorem readNumeral_signedDecimal (value : Int) {rest : List Char} (delimited : Delimited rest) :
    readNumeral ((Text.signedDecimal value).toList ++ rest) =
      some (⟨decide (value < 0), digitsOf value.natAbs, none, none⟩, rest) := by
  have digits := readDigits_toDigits value.natAbs delimited
  have whole := isWhole_digitsOf value.natAbs
  by_cases negative : value < 0
  · have chars : (Text.signedDecimal value).toList ++ rest =
        '-' :: (Nat.toDigits 10 value.natAbs ++ rest) := by
      simp [Text.signedDecimal, negative, Text.decimal]
    rw [chars]
    simp only [readNumeral, digits, whole, negative, decide_true]
    rcases delimited with rfl | ⟨c, after, rfl, rfl | rfl | rfl⟩ <;> rfl
  · have chars : (Text.signedDecimal value).toList ++ rest =
        Nat.toDigits 10 value.natAbs ++ rest := by
      simp [Text.signedDecimal, negative, Text.decimal]
    have unsigned : ∀ tail, Nat.toDigits 10 value.natAbs ++ rest = '-' :: tail → False := by
      intro tail signed
      obtain ⟨first, others, listed⟩ :=
        List.exists_cons_of_ne_nil (@Nat.toDigits_ne_nil value.natAbs 10)
      rw [listed, List.cons_append, List.cons.injEq] at signed
      exact Text.toDigits_ne_sign_cons value.natAbs others (by decide) (signed.1 ▸ listed)
    rw [chars]
    simp only [readNumeral, digits, whole, negative, decide_false]
    rcases delimited with rfl | ⟨c, after, rfl, rfl | rfl | rfl⟩ <;> rfl

/-- Whether a number is an integer of 64 bits, signed or unsigned. -/
def Number.isWord : Number → Bool
  | .int value => decide (-Text.halfWord ≤ value ∧ value < UInt64.size)
  | .float _ => false

/-- The value of the numeral of a word is the word. -/
theorem value?_of_isWord {value : Int} (word : Number.isWord (.int value) = true) :
    (⟨decide (value < 0), digitsOf value.natAbs, none, none⟩ : Numeral).value? =
      some (.int value) := by
  simp only [Number.isWord, decide_eq_true_eq, Text.halfWord, UInt64.size] at word
  simp only [Numeral.value?, ofDigits_digitsOf, Option.isNone_none, Bool.true_and, UInt64.size,
    Text.halfWord]
  generalize size : value.natAbs = number
  have fits : number < 0x10000000000000000 := by omega
  by_cases negative : value < 0
  · have bounds : 0 < number ∧ number ≤ 0x8000000000000000 := by omega
    have back : -(number : Int) = value := by omega
    simp [fits, negative, bounds, back]
  · have back : (number : Int) = value := by omega
    simp [fits, negative, back]

/-- A numeral begins with a digit or a minus sign. -/
theorem exists_cons_signedDecimal (value : Int) :
    ∃ c chars, (Text.signedDecimal value).toList = c :: chars ∧
      (c.isDigit = true ∨ c = '-') := by
  have nonempty : (Text.signedDecimal value).toList ≠ [] := by
    rw [Text.signedDecimal]
    split <;> simp [Text.decimal, Nat.toDigits_ne_nil]
  obtain ⟨c, chars, listed⟩ := List.exists_cons_of_ne_nil nonempty
  have mem : c ∈ (Text.signedDecimal value).toList := by
    rw [listed]
    exact List.mem_cons_self
  exact ⟨c, chars, listed, Text.isDigit_or_eq_of_mem_signedDecimal mem⟩

end Numbers

section Steps

variable {steps : Nat} {chars more rest : List Char} {item : Draft} {items : List Draft}
  {key : String} {members : List (Option String × Draft)}

/-- Space is dropped at once. -/
theorem dropSpace_dropSpace (chars : List Char) :
    dropSpace (dropSpace chars) = dropSpace chars := by
  induction chars with
  | nil => rfl
  | cons c rest inductionHypothesis =>
    simp only [dropSpace, List.dropWhile_cons] at inductionHypothesis ⊢
    split
    · exact inductionHypothesis
    · rename_i solid
      rw [List.dropWhile_cons, if_neg solid]

/-- Space before a value does not matter. -/
theorem readDraft_dropSpace (steps : Nat) (chars : List Char) :
    readDraft steps (dropSpace chars) = readDraft steps chars := by
  cases steps <;> simp only [readDraft, dropSpace_dropSpace]

/-- Space before items does not matter. -/
theorem readItems_dropSpace (steps : Nat) (chars : List Char) :
    readItems steps (dropSpace chars) = readItems steps chars := by
  cases steps <;> simp only [readItems, readDraft_dropSpace]

/-- Space before members does not matter. -/
theorem readMembers_dropSpace (steps : Nat) (chars : List Char) :
    readMembers steps (dropSpace chars) = readMembers steps chars := by
  cases steps <;> simp only [readMembers, dropSpace_dropSpace]

/-- What starts with a digit or a sign is read as a number. -/
theorem readDraft_of_sign {c : Char} (starts : c.isDigit = true ∨ c = '-') (steps : Nat)
    (chars : List Char) :
    readDraft (steps + 1) (c :: chars) =
      (readNumeral (c :: chars)).map fun (numeral, rest) => (.num numeral.value?, rest) := by
  have other : ∀ letter : Char, letter.isDigit = false → letter ≠ '-' → c ≠ letter := by
    rintro letter noDigit noSign rfl
    rcases starts with digit | sign
    · rw [noDigit] at digit
      cases digit
    · exact noSign sign
  have solid : dropSpace (c :: chars) = c :: chars := by
    rw [dropSpace, List.dropWhile_cons_of_neg]
    simp [other ' ' (by decide) (by decide), other '\t' (by decide) (by decide),
      other '\n' (by decide) (by decide), other '\r' (by decide) (by decide)]
  rw [readDraft, solid]
  split
  -- All ways of the reader but the last one ask for a first character of their own.
  case h_7 => rfl
  all_goals
    rename_i same
    exact absurd (List.cons.inj same).1 (other _ (by decide) (by decide))

/-- No value starts with a closing bracket. -/
theorem readDraft_eq_none_of_bracket (closes : dropSpace chars = ']' :: rest) :
    readDraft steps chars = none := by
  cases steps with
  | zero => rfl
  | succ steps =>
    rw [readDraft, closes]
    simp [readNumeral, readDigits, Text.decimalDigit?]

/-- An item before the closing bracket is the last one. -/
theorem readItems_last (read : readDraft steps chars = some (item, ']' :: rest)) :
    readItems (steps + 1) chars = some ([item], rest) := by
  simp [readItems, read, dropSpace]

/-- An item before a comma comes before the items behind it. -/
theorem readItems_more (read : readDraft steps chars = some (item, ',' :: more))
    (readMore : readItems steps more = some (items, rest)) :
    readItems (steps + 1) chars = some (item :: items, rest) := by
  simp [readItems, read, readMore, dropSpace]

/-- A member before the closing brace is the last one. -/
theorem readMembers_last (read : readDraft steps chars = some (item, '\x7d' :: rest)) :
    readMembers (steps + 1) ((renderText key).toList ++ ':' :: chars) =
      some ([(some key, item)], rest) := by
  have keyRead := readText_flatMap_escapeChar key.toList (':' :: chars)
  simp [readMembers, toList_renderText_append, keyRead, read, dropSpace]

/-- A member before a comma comes before the members behind it. -/
theorem readMembers_more (read : readDraft steps chars = some (item, ',' :: more))
    (readMore : readMembers steps more = some (members, rest)) :
    readMembers (steps + 1) ((renderText key).toList ++ ':' :: chars) =
      some ((some key, item) :: members, rest) := by
  have keyRead := readText_flatMap_escapeChar key.toList (':' :: chars)
  simp [readMembers, toList_renderText_append, keyRead, read, readMore, dropSpace]

/-- An array is read from its items. -/
theorem readDraft_bracket (read : readItems steps chars = some (items, rest)) :
    readDraft (steps + 1) ('[' :: chars) = some (.arr items, rest) := by
  have opens : ∀ after, dropSpace chars = ']' :: after → False := by
    intro after closes
    cases steps with
    | zero => cases read
    | succ steps => simp [readItems, readDraft_eq_none_of_bracket closes] at read
  have opened : dropSpace ('[' :: chars) = '[' :: chars := rfl
  simp only [readDraft, opened, readItems_dropSpace, read, Option.map_some]

/-- An object is read from its members. -/
theorem readDraft_brace (read : readMembers steps chars = some (members, rest)) :
    readDraft (steps + 1) ('\x7b' :: chars) = some (.obj members, rest) := by
  have opens : ∀ after, dropSpace chars = '\x7d' :: after → False := by
    intro after closes
    cases steps with
    | zero => cases read
    | succ steps => simp [readMembers, closes] at read
  have opened : dropSpace ('\x7b' :: chars) = '\x7b' :: chars := rfl
  simp only [readDraft, opened, readMembers_dropSpace, read, Option.map_some]

end Steps

section Characters

variable (item next : Json) (key : String) (value : Json)

/-- The characters of an array: its items in square brackets. -/
theorem toList_render_arr (items : List Json) : (Json.arr items).render.toList =
    '[' :: ((",".intercalate (renderItems items)).toList ++ [']']) := by
  simp [render]

/-- The characters of an object: its members in braces. -/
theorem toList_render_obj (members : List (String × Json)) : (Json.obj members).render.toList =
    '\x7b' :: ((",".intercalate (renderMembers members)).toList ++ ['\x7d']) := by
  simp [render]

/-- The characters of items: the first of them, a comma and the others. -/
theorem toList_items_more (later : List Json) :
    (",".intercalate (renderItems (item :: next :: later))).toList =
      item.render.toList ++ ',' :: (",".intercalate (renderItems (next :: later))).toList := by
  simp [renderItems, String.intercalate_cons_cons]

/-- The characters of a single member: its key, a colon and its value. -/
theorem toList_members_last :
    (",".intercalate (renderMembers [(key, value)])).toList =
      (renderText key).toList ++ ':' :: value.render.toList := by
  simp [renderMembers]

/-- The characters of members: the first of them, a comma and the others. -/
theorem toList_members_more (next : String × Json) (later : List (String × Json)) :
    (",".intercalate (renderMembers ((key, value) :: next :: later))).toList =
      (renderText key).toList ++ ':' :: (value.render.toList ++
        ',' :: (",".intercalate (renderMembers (next :: later))).toList) := by
  simp [renderMembers, String.intercalate_cons_cons]

end Characters

/-- A value is read as a draft from its document, whatever delimiter follows. A step into an item or
a member comes with one more step into its value, so each character makes up for two steps. -/
def ReadsBack (value : Json) : Prop :=
  ∀ (steps : Nat) (rest : List Char), Delimited rest →
  2 * value.render.toList.length < steps →
    readDraft steps (value.render.toList ++ rest) = some (value.toDraft, rest)

section ReadsBack

variable {items : List Json} {members : List (String × Json)} {steps : Nat} {rest : List Char}

/-- A comma ends a value. -/
theorem delimited_comma (rest : List Char) : Delimited (',' :: rest) :=
  Or.inr ⟨',', rest, rfl, Or.inl rfl⟩

/-- A closing bracket ends a value. -/
theorem delimited_bracket (rest : List Char) : Delimited (']' :: rest) :=
  Or.inr ⟨']', rest, rfl, Or.inr (Or.inl rfl)⟩

/-- A closing brace ends a value. -/
theorem delimited_brace (rest : List Char) : Delimited ('\x7d' :: rest) :=
  Or.inr ⟨'\x7d', rest, rfl, Or.inr (Or.inr rfl)⟩

/-- Items that are read back one by one are read back together. -/
theorem readItems_render (each : ∀ item ∈ items, item.ReadsBack) (nonempty : items ≠ [])
    (enough : 2 * (",".intercalate (renderItems items)).toList.length + 1 < steps) :
    readItems steps ((",".intercalate (renderItems items)).toList ++ ']' :: rest) =
      some (itemsToDraft items, rest) := by
  induction items generalizing steps with
  | nil => exact absurd rfl nonempty
  | cons item later inductionHypothesis =>
    have readsItem : item.ReadsBack := each item List.mem_cons_self
    obtain ⟨steps, rfl⟩ := Nat.exists_eq_add_one_of_ne_zero (Nat.ne_zero_of_lt enough)
    cases later with
    | nil =>
      rw [renderItems, renderItems, String.intercalate_singleton] at enough ⊢
      exact readItems_last (readsItem _ _ (delimited_bracket rest) (by omega))
    | cons next later =>
      rw [toList_items_more] at enough ⊢
      simp only [List.length_cons, List.length_append] at enough
      rw [List.append_assoc, List.cons_append]
      exact readItems_more (readsItem _ _ (delimited_comma _) (by omega))
        (inductionHypothesis (fun item mem => each item (List.mem_cons_of_mem _ mem))
          (List.cons_ne_nil next later) (by omega))

/-- Members whose values are read back one by one are read back together. -/
theorem readMembers_render (each : ∀ member ∈ members, member.2.ReadsBack)
    (nonempty : members ≠ [])
    (enough : 2 * (",".intercalate (renderMembers members)).toList.length + 1 < steps) :
    readMembers steps ((",".intercalate (renderMembers members)).toList ++ '\x7d' :: rest) =
      some (membersToDraft members, rest) := by
  induction members generalizing steps with
  | nil => exact absurd rfl nonempty
  | cons member later inductionHypothesis =>
    obtain ⟨key, value⟩ := member
    have readsValue : value.ReadsBack := each (key, value) List.mem_cons_self
    obtain ⟨steps, rfl⟩ := Nat.exists_eq_add_one_of_ne_zero (Nat.ne_zero_of_lt enough)
    cases later with
    | nil =>
      rw [toList_members_last] at enough ⊢
      simp only [List.length_cons, List.length_append] at enough
      rw [List.append_assoc, List.cons_append]
      exact readMembers_last (readsValue _ _ (delimited_brace rest) (by omega))
    | cons next later =>
      rw [toList_members_more] at enough ⊢
      simp only [List.length_cons, List.length_append] at enough
      simp only [List.append_assoc, List.cons_append]
      exact readMembers_more (readsValue _ _ (delimited_comma _) (by omega))
        (inductionHypothesis (fun member mem => each member (List.mem_cons_of_mem _ mem))
          (List.cons_ne_nil next later) (by omega))

/-- An integer of 64 bits is read back. -/
theorem readsBack_num {value : Int} (word : Number.isWord (.int value) = true) :
    (Json.num (.int value)).ReadsBack := by
  intro steps rest delimited enough
  obtain ⟨steps, rfl⟩ := Nat.exists_eq_add_one_of_ne_zero (Nat.ne_zero_of_lt enough)
  have read := readNumeral_signedDecimal value delimited
  obtain ⟨c, chars, listed, starts⟩ := exists_cons_signedDecimal value
  have listed : (Json.num (.int value)).render.toList = c :: chars := listed
  rw [listed, List.cons_append, readDraft_of_sign starts, ← List.cons_append, ← listed]
  simp only [render, Number.render, read, Option.map_some, value?_of_isWord word, toDraft]

/-- A text is read back. -/
theorem readsBack_str (text : String) : (Json.str text).ReadsBack := by
  intro steps rest delimited enough
  obtain ⟨steps, rfl⟩ := Nat.exists_eq_add_one_of_ne_zero (Nat.ne_zero_of_lt enough)
  have read := readText_flatMap_escapeChar text.toList rest
  simp [render, toList_renderText_append, readDraft, dropSpace, toDraft, read]

/-- An array is read back if its items are. -/
theorem readsBack_arr (each : ∀ item ∈ items, item.ReadsBack) : (Json.arr items).ReadsBack := by
  intro steps rest delimited enough
  obtain ⟨steps, rfl⟩ := Nat.exists_eq_add_one_of_ne_zero (Nat.ne_zero_of_lt enough)
  rw [toList_render_arr] at enough ⊢
  simp only [List.length_cons, List.length_append] at enough
  rw [List.cons_append, List.append_assoc]
  by_cases empty : items = []
  · subst empty
    rfl
  · exact readDraft_bracket (readItems_render each empty (by omega))

/-- An object is read back if the values of its members are. -/
theorem readsBack_obj (each : ∀ member ∈ members, member.2.ReadsBack) :
    (Json.obj members).ReadsBack := by
  intro steps rest delimited enough
  obtain ⟨steps, rfl⟩ := Nat.exists_eq_add_one_of_ne_zero (Nat.ne_zero_of_lt enough)
  rw [toList_render_obj] at enough ⊢
  simp only [List.length_cons, List.length_append] at enough
  rw [List.cons_append, List.append_assoc]
  by_cases empty : members = []
  · subst empty
    rfl
  · exact readDraft_brace (readMembers_render each empty (by omega))

end ReadsBack

mutual

/-- Every value whose numbers are integers of 64 bits is read back. -/
theorem readsBack : ∀ value : Json, value.allNumbers Number.isWord = true → value.ReadsBack
  | .null, _ | .bool true, _ | .bool false, _ => by
    intro steps rest delimited enough
    obtain ⟨steps, rfl⟩ := Nat.exists_eq_add_one_of_ne_zero (Nat.ne_zero_of_lt enough)
    simp [render, readDraft, dropSpace, toDraft]
  | .num (.int _), word => readsBack_num word
  | .str text, _ => readsBack_str text
  | .arr items, words => readsBack_arr (itemsReadBack items words)
  | .obj members, words => readsBack_obj (membersReadBack members words)

/-- Items whose numbers are integers of 64 bits are read back. -/
theorem itemsReadBack : ∀ items : List Json, allNumbersOfItems Number.isWord items = true →
    ∀ item ∈ items, item.ReadsBack
  | [], _, _, mem => nomatch mem
  | first :: later, words, item, mem => by
    rw [allNumbersOfItems, Bool.and_eq_true] at words
    rcases List.mem_cons.mp mem with same | mem
    · rw [same]
      exact readsBack first words.1
    · exact itemsReadBack later words.2 item mem

/-- The values of members are read back if their numbers are integers of 64 bits. -/
theorem membersReadBack : ∀ members : List (String × Json),
    allNumbersOfMembers Number.isWord members = true → ∀ member ∈ members, member.2.ReadsBack
  | [], _, _, mem => nomatch mem
  | (key, value) :: later, words, member, mem => by
    rw [allNumbersOfMembers, Bool.and_eq_true] at words
    rcases List.mem_cons.mp mem with same | mem
    · rw [same]
      exact readsBack value words.1
    · exact membersReadBack later words.2 member mem

end

mutual

/-- How many arrays and objects stand inside one another. -/
def depth : Json → Nat
  | .arr items => depthOfItems items + 1
  | .obj members => depthOfMembers members + 1
  | _ => 0

/-- The greatest depth of an item. -/
def depthOfItems : List Json → Nat
  | [] => 0
  | item :: rest => max (depth item) (depthOfItems rest)

/-- The greatest depth of the value of a member. -/
def depthOfMembers : List (String × Json) → Nat
  | [] => 0
  | (_, value) :: rest => max (depth value) (depthOfMembers rest)

end

section Drafts

/-- A new key is added at the end. -/
theorem putMember_of_fresh {key : String} (value : Json) {members : List (String × Json)}
    (fresh : key ∉ members.map Prod.fst) :
    putMember key value members = members ++ [(key, value)] := by
  induction members with
  | nil => rfl
  | cons member rest inductionHypothesis =>
    obtain ⟨other, old⟩ := member
    rw [List.map_cons, List.mem_cons, not_or] at fresh
    rw [putMember, if_neg (Ne.symm fresh.1), inductionHypothesis fresh.2, List.cons_append]

/-- Members of which no key is repeated stay as they are. -/
theorem mergeMembers_of_nodup {members : List (String × Json)}
    (distinct : (members.map Prod.fst).Nodup) : mergeMembers members = members := by
  suffices merged : ∀ start : List (String × Json), ((start ++ members).map Prod.fst).Nodup →
      members.foldl (fun merged member => putMember member.1 member.2 merged) start =
        start ++ members from merged [] distinct
  clear distinct
  induction members with
  | nil => simp
  | cons member rest inductionHypothesis =>
    intro start distinct
    have fresh : member.1 ∉ start.map Prod.fst := by
      intro mem
      rw [List.map_append, List.nodup_append] at distinct
      exact distinct.2.2 _ mem _ (List.mem_map_of_mem List.mem_cons_self) rfl
    rw [List.foldl_cons, putMember_of_fresh _ fresh,
      inductionHypothesis _ (by simpa using distinct), List.append_assoc, List.singleton_append]

mutual

/-- The draft of a value stands for the value. -/
theorem valueWithin_toDraft : ∀ (value : Json) {limit : Nat}, value.hasDistinctKeys = true →
    value.depth ≤ limit → value.toDraft.valueWithin limit = some value
  | .null, _, _, _ | .bool _, _, _, _ | .num _, _, _, _ | .str _, _, _, _ => rfl
  | .arr items, limit, distinct, shallow => by
    obtain ⟨limit, rfl⟩ := Nat.exists_eq_add_one_of_ne_zero (Nat.ne_zero_of_lt shallow)
    have read := valuesWithin_itemsToDraft items distinct (Nat.le_of_succ_le_succ shallow)
    rw [toDraft, Draft.valueWithin, read, Option.map_some]
  | .obj members, limit, distinct, shallow => by
    obtain ⟨limit, rfl⟩ := Nat.exists_eq_add_one_of_ne_zero (Nat.ne_zero_of_lt shallow)
    rw [hasDistinctKeys, Bool.and_eq_true, decide_eq_true_eq] at distinct
    have read := membersWithin_membersToDraft members distinct.2 (Nat.le_of_succ_le_succ shallow)
    rw [toDraft, Draft.valueWithin, read, Option.map_some, mergeMembers_of_nodup distinct.1]

/-- The drafts of items have the items as their values. -/
theorem valuesWithin_itemsToDraft : ∀ (items : List Json) {limit : Nat},
    itemsHaveDistinctKeys items = true → depthOfItems items ≤ limit →
      Draft.valuesWithin limit (itemsToDraft items) = some items
  | [], _, _, _ => rfl
  | item :: rest, limit, distinct, shallow => by
    rw [itemsHaveDistinctKeys, Bool.and_eq_true] at distinct
    rw [depthOfItems, Nat.max_le] at shallow
    simp only [itemsToDraft, Draft.valuesWithin, valueWithin_toDraft item distinct.1 shallow.1,
      valuesWithin_itemsToDraft rest distinct.2 shallow.2]

/-- The drafts of members have the members as their values. -/
theorem membersWithin_membersToDraft : ∀ (members : List (String × Json)) {limit : Nat},
    membersHaveDistinctKeys members = true → depthOfMembers members ≤ limit →
      Draft.membersWithin limit (membersToDraft members) = some members
  | [], _, _, _ => rfl
  | (key, value) :: rest, limit, distinct, shallow => by
    rw [membersHaveDistinctKeys, Bool.and_eq_true] at distinct
    rw [depthOfMembers, Nat.max_le] at shallow
    simp only [membersToDraft, Draft.membersWithin, valueWithin_toDraft value distinct.1 shallow.1,
      membersWithin_membersToDraft rest distinct.2 shallow.2]

end

end Drafts

/-- A value is read back from its compact document. -/
theorem parse?_render {value : Json} (words : value.allNumbers Number.isWord = true)
    (distinct : value.hasDistinctKeys = true) (shallow : value.depth ≤ maxDepth) :
    parse? value.render = some value := by
  have enough : 2 * value.render.toList.length < 2 * value.render.length + 2 := by
    rw [String.length_toList]
    omega
  have read := readsBack value words _ [] (Or.inl rfl) enough
  rw [List.append_nil] at read
  rw [parse?, Draft.parse?, read]
  exact valueWithin_toDraft value distinct shallow

end SourceTrace.Json

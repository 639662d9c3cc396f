import SourceTrace.Proofs.Ast.Expression

/-!
# Texts of expressions are unambiguous

The text of an expression can be told from what follows it, as long as that starts with a character
that closes an expression: a space, a comma or a closing bracket (`Separates`). An expression is a
word or a text in brackets, its head, with suffixes behind it. A word ends at the first delimiter.
Inside brackets the text is shorter, so components come apart by induction on the length of the
text; what stands behind the first component tells operations from tuples. Suffixes come apart one
by one, since each starts with a character of its own.
-/

namespace SourceTrace.Ast.Expression

/-- Characters that can stand behind an expression inside brackets. -/
def isCloser (c : Char) : Bool :=
  [' ', ',', ')', ']'].contains c

/-- Characters that can stand behind a list of components. -/
def isClosingBracket (c : Char) : Bool :=
  [')', ']'].contains c

/-- A text starts with a character of a class. -/
def Begins (accepts : Char → Bool) (chars : List Char) : Prop :=
  chars.head?.any accepts = true

section Beginnings

variable {accepts : Char → Bool} {chars rest otherRest : List Char} {c : Char}

@[simp]
theorem begins_cons : Begins accepts (c :: rest) ↔ accepts c = true := Iff.rfl

/-- What follows does not change how characters begin. -/
theorem Begins.append (begins : Begins accepts chars) (rest : List Char) :
    Begins accepts (chars ++ rest) := by
  cases chars with
  | nil => cases begins
  | cons c tail => exact begins

/-- Characters that begin in one way begin in every wider way. -/
theorem Begins.mono {wider : Char → Bool} (begins : Begins accepts chars)
    (imp : ∀ c, accepts c = true → wider c = true) : Begins wider chars := by
  cases chars with
  | nil => cases begins
  | cons c tail => exact imp c begins

/-- Characters do not begin both with a character of a class and with one outside it. -/
theorem Begins.not_begins (begins : Begins accepts chars) :
    ¬ Begins (fun c => !accepts c) chars := by
  cases chars with
  | nil => cases begins
  | cons c tail =>
    rw [begins_cons] at begins ⊢
    simp [begins]

/-- Characters that begin in different ways differ. -/
theorem Begins.ne (begins : Begins accepts chars) (others : ¬ Begins accepts rest) :
    chars ≠ rest :=
  fun same => others (same ▸ begins)

/-- What closes a slot delimits words. -/
theorem isDelimiter_of_isCloser (c : Char) (closes : isCloser c = true) : isDelimiter c = true := by
  have all : [' ', ',', ')', ']'].all isDelimiter = true := by decide
  exact List.all_eq_true.mp all c (List.contains_iff_mem.mp closes)

/-- A closing bracket closes a slot. -/
theorem isCloser_of_isClosingBracket (c : Char) (closes : isClosingBracket c = true) :
    isCloser c = true := by
  have all : [')', ']'].all isCloser = true := by decide
  exact List.all_eq_true.mp all c (List.contains_iff_mem.mp closes)

/-- A class of characters that has no delimiter. -/
theorem isDelimiter_eq_false
    (apart : [' ', ',', '.', '(', ')', '[', ']'].all (fun c => !accepts c) = true)
    (accepted : accepts c = true) : isDelimiter c = false := by
  rw [Bool.eq_false_iff]
  intro delimits
  have rejected := List.all_eq_true.mp apart c (List.contains_iff_mem.mp delimits)
  simp [accepted] at rejected

end Beginnings

section Words

variable {word other rest otherRest : List Char}

/-- Characters of words are no delimiters. -/
def IsWord (word : List Char) : Prop :=
  ∀ c ∈ word, isDelimiter c = false

/-- A word before a delimiter is found by taking characters up to it. -/
theorem takeWhile_word (isWord : IsWord word) (begins : Begins isDelimiter rest) :
    (word ++ rest).takeWhile (fun c => !isDelimiter c) = word := by
  rw [List.takeWhile_append_of_pos fun c mem => by simp [isWord c mem]]
  cases rest with
  | nil => cases begins
  | cons c tail =>
    rw [begins_cons] at begins
    simp [begins]

/-- A word ends at the first delimiter. -/
theorem word_append_inj (isWord : IsWord word) (isOther : IsWord other)
    (begins : Begins isDelimiter rest) (otherBegins : Begins isDelimiter otherRest)
    (same : word ++ rest = other ++ otherRest) : word = other ∧ rest = otherRest := by
  have words : word = other := by
    rw [← takeWhile_word isWord begins, same, takeWhile_word isOther otherBegins]
  subst words
  exact ⟨rfl, List.append_cancel_left same⟩

/-- A name is a word. -/
theorem isWord_name (name : Name) : IsWord name.1.toList := fun c mem =>
  isDelimiter_eq_false (by decide) (List.all_eq_true.mp name.2.1 c mem)

/-- A numeral is a word. -/
theorem isWord_digits (digits : Digits) : IsWord digits.1.toList := fun c mem =>
  isDelimiter_eq_false (by decide) (List.all_eq_true.mp digits.2.1 c mem)

/-- An operator is a word. -/
theorem isWord_operator (operator : Operator) : IsWord operator.1.toList := fun c mem =>
  isDelimiter_eq_false (by decide) (List.all_eq_true.mp operator.2.1 c mem)

/-- The name of a member is a word. -/
theorem isWord_memberName (name : MemberName) : IsWord name.1.toList := fun c mem => by
  simpa using List.all_eq_true.mp name.2 c mem

/-- A word that is not empty does not begin with a delimiter. -/
theorem begins_of_isWord (isWord : IsWord word) (nonempty : word ≠ []) :
    Begins (fun c => !isDelimiter c) word := by
  cases word with
  | nil => exact absurd rfl nonempty
  | cons c tail =>
    rw [begins_cons, isWord c List.mem_cons_self]
    rfl

/-- No name is empty. -/
theorem name_ne_nil (name : Name) : name.1.toList ≠ [] := by
  intro empty
  have starts := name.2.2
  rw [empty] at starts
  cases starts

/-- No numeral is empty. -/
theorem digits_ne_nil (digits : Digits) : digits.1.toList ≠ [] := by
  simpa using digits.2.2

/-- No word is both a name and a number. -/
theorem name_ne_digits (name : Name) (digits : Digits) : name.1.toList ≠ digits.1.toList := by
  intro same
  have starts := name.2.2
  have all := digits.2.1
  rw [same] at starts
  cases chars : digits.1.toList with
  | nil => exact digits_ne_nil digits chars
  | cons c tail =>
    rw [chars, List.head?_cons, Option.any_some] at starts
    rw [chars, List.all_cons, Bool.and_eq_true] at all
    simp [all.1] at starts

end Words

section Texts

/-- The text of a component. -/
def slotChars (slot : Option Expression) : List Char :=
  (slotText slot).toList

/-- The texts of further components, with a comma and a space before each. -/
def moreChars (slots : List (Option Expression)) : List Char :=
  slots.flatMap fun slot => ',' :: ' ' :: slotChars slot

/-- Each further slot follows a comma and a space. -/
theorem moreChars_cons (slot : Option Expression) (slots : List (Option Expression)) :
    moreChars (slot :: slots) = ',' :: ' ' :: (slotChars slot ++ moreChars slots) := rfl

/-- The texts of components with a comma and a space between them. -/
def listChars : List (Option Expression) → List Char
  | [] => []
  | slot :: slots => slotChars slot ++ moreChars slots

/-- Slots are written one by one. -/
theorem slotTexts_eq_map (slots : List (Option Expression)) :
    slotTexts slots = slots.map slotText := by
  induction slots with
  | nil => rfl
  | cons slot slots inductionHypothesis => rw [slotTexts, inductionHypothesis, List.map_cons]

/-- Arguments are written as slots that are all filled. -/
theorem argumentTexts_eq_map (arguments : List Expression) :
    argumentTexts arguments = (arguments.map some).map slotText := by
  induction arguments with
  | nil => rfl
  | cons argument arguments inductionHypothesis =>
    rw [argumentTexts, inductionHypothesis, List.map_cons, List.map_cons, slotText]

/-- Slots with commas between them are the first slot and the further ones. -/
theorem toList_commas (slots : List (Option Expression)) :
    (Text.commas (slots.map slotText)).toList = listChars slots := by
  cases slots with
  | nil => rfl
  | cons slot slots =>
    induction slots generalizing slot with
    | nil => simp [Text.commas, listChars, moreChars, slotChars]
    | cons next slots inductionHypothesis =>
      have rest := inductionHypothesis next
      simp only [Text.commas, List.map_cons] at rest ⊢
      rw [String.intercalate_cons_cons, String.toList_append, String.toList_append, rest]
      simp [listChars, moreChars, slotChars]

/-- The components of an inline array. -/
def arraySlots (missing : Nat) (first : Expression) (rest : List (Option Expression)) :
    List (Option Expression) :=
  List.replicate missing none ++ some first :: rest

/-- The characters of a binary operation. -/
theorem toList_binary (left right : Expression) (operator : Operator) :
    (binary left operator right).text.toList =
      '(' :: (slotChars (some left) ++
        ' ' :: (operator.1.toList ++ ' ' :: (right.text.toList ++ [')']))) := by
  simp [text, Text.parens, Text.spaced, String.intercalate_cons_cons, slotChars, slotText]

/-- The characters of a call. -/
theorem toList_call (callee : Expression) (arguments : List Expression) :
    (call callee arguments).text.toList =
      callee.text.toList ++ '(' :: (listChars (arguments.map some) ++ [')']) := by
  simp [text, Text.parens, argumentTexts_eq_map, ← toList_commas]

/-- The characters of an expression in parentheses. -/
theorem toList_group (inner : Expression) :
    (group inner).text.toList = '(' :: (slotChars (some inner) ++ [')']) := by
  simp [text, Text.parens, slotChars, slotText]

/-- The characters of a tuple, which has at least two slots. -/
theorem toList_tuple (first second : Option Expression) (rest : List (Option Expression)) :
    (tuple first second rest).text.toList =
      '(' :: (slotChars first ++ (moreChars (second :: rest) ++ [')'])) := by
  have listed := toList_commas (first :: second :: rest)
  simp only [List.map_cons] at listed
  simp [text, Text.parens, slotTexts_eq_map, listed, listChars]

/-- The characters of an array. -/
theorem toList_array (missing : Nat) (first : Expression) (rest : List (Option Expression)) :
    (array missing first rest).text.toList =
      '[' :: (listChars (arraySlots missing first rest) ++ [']']) := by
  have listed := toList_commas (arraySlots missing first rest)
  simp only [arraySlots, List.map_append, List.map_cons, List.map_replicate] at listed
  simp only [slotText] at listed
  simp [text, Text.squares, slotTexts_eq_map, listed, arraySlots]

end Texts

section Spine

/-- What can stand behind a head: a member name, a position or arguments. -/
inductive Suffix where
  /-- The name of a member. -/
  | member (name : MemberName)
  /-- A position in square brackets, which may be missing. -/
  | index (position : Option Expression)
  /-- Arguments in round brackets. -/
  | call (arguments : List Expression)

/-- An expression with a suffix behind it. -/
def Suffix.applyTo (expression : Expression) : Suffix → Expression
  | .member name => .member expression name
  | .index position => .index expression position
  | .call arguments => .call expression arguments

/-- The text of a suffix. -/
def Suffix.chars : Suffix → List Char
  | .member name => '.' :: name.1.toList
  | .index position => '[' :: (slotChars position ++ [']'])
  | .call arguments => '(' :: (listChars (arguments.map some) ++ [')'])

/-- An expression with suffixes behind it. -/
def extended (head : Expression) (suffixes : List Suffix) : Expression :=
  suffixes.foldl Suffix.applyTo head

/-- Expressions without a suffix. -/
def isHead : Expression → Bool
  | .member _ _ | .index _ _ | .call _ _ => false
  | _ => true

/-- The bracket that a head starts with; words have none. -/
def opening? : Expression → Option Char
  | .binary _ _ _ | .group _ | .tuple _ _ _ => some '('
  | .array _ _ _ => some '['
  | _ => none

/-- A suffix is written behind the expression that it is applied to. -/
theorem toList_applyTo (expression : Expression) (suffix : Suffix) :
    (suffix.applyTo expression).text.toList = expression.text.toList ++ suffix.chars := by
  cases suffix with
  | member name => simp [Suffix.applyTo, Suffix.chars, text]
  | index position => simp [Suffix.applyTo, Suffix.chars, text, Text.squares, slotChars]
  | call arguments => exact toList_call expression arguments

/-- Suffixes are written one behind the other. -/
theorem toList_extended (head : Expression) (suffixes : List Suffix) :
    (head.extended suffixes).text.toList = head.text.toList ++ suffixes.flatMap Suffix.chars := by
  induction suffixes generalizing head with
  | nil => simp [extended]
  | cons suffix suffixes inductionHypothesis =>
    rw [extended, List.foldl_cons, ← extended, inductionHypothesis, toList_applyTo,
      List.flatMap_cons, List.append_assoc]

/-- If an expression is a head with suffixes, then so it is with one suffix more. -/
theorem exists_extended_applyTo {expression : Expression} (suffix : Suffix)
    (known : ∃ head suffixes, isHead head = true ∧ expression = head.extended suffixes) :
    ∃ head suffixes, isHead head = true ∧
      suffix.applyTo expression = head.extended suffixes := by
  obtain ⟨head, suffixes, isHead, rfl⟩ := known
  exact ⟨head, suffixes ++ [suffix], isHead, by simp [extended]⟩

/-- Every expression is a head with suffixes behind it. -/
theorem exists_extended : (expression : Expression) →
    ∃ head suffixes, isHead head = true ∧ expression = head.extended suffixes
  | .member object name => exists_extended_applyTo (.member name) (exists_extended object)
  | .index base position => exists_extended_applyTo (.index position) (exists_extended base)
  | .call callee arguments => exists_extended_applyTo (.call arguments) (exists_extended callee)
  | .identifier name => ⟨.identifier name, [], rfl, rfl⟩
  | .number digits => ⟨.number digits, [], rfl, rfl⟩
  | .binary left operator right => ⟨.binary left operator right, [], rfl, rfl⟩
  | .group inner => ⟨.group inner, [], rfl, rfl⟩
  | .tuple first second rest => ⟨.tuple first second rest, [], rfl, rfl⟩
  | .array missing first rest => ⟨.array missing first rest, [], rfl, rfl⟩

/-- A head starts with its bracket, or with a character that is no delimiter. -/
theorem begins_head {head : Expression} (isHead : head.isHead = true) :
    Begins (fun c => head.opening? == if isDelimiter c then some c else none) head.text.toList := by
  have word : ∀ {chars : List Char}, IsWord chars → chars ≠ [] →
      Begins (fun c => none == if isDelimiter c then some c else none) chars :=
        fun isWord nonempty =>
    (begins_of_isWord isWord nonempty).mono fun c plain => by simp_all
  cases head with
  | identifier name => exact word (isWord_name name) (name_ne_nil name)
  | number digits => exact word (isWord_digits digits) (digits_ne_nil digits)
  | binary left operator right =>
    rw [toList_binary]
    rfl
  | group inner =>
    rw [toList_group]
    rfl
  | tuple first second rest =>
    rw [toList_tuple]
    rfl
  | array missing first rest =>
    rw [toList_array]
    rfl
  | member object name => cases isHead
  | index base position => cases isHead
  | call callee arguments => cases isHead

/-- Texts of expressions start with a character that closes no expression. -/
theorem begins_text (expression : Expression) :
    Begins (fun c => !isCloser c) expression.text.toList := by
  obtain ⟨head, suffixes, isHead, rfl⟩ := exists_extended expression
  rw [toList_extended]
  apply Begins.append
  apply (begins_head isHead).mono
  intro c starts
  rw [Bool.not_eq_true', Bool.eq_false_iff]
  intro closes
  have opens : head.opening? = some c := by simpa [isDelimiter_of_isCloser c closes] using starts
  cases head <;> cases opens <;> cases closes

/-- Suffixes before what closes a slot begin with a delimiter. -/
theorem begins_suffixes {rest : List Char} (suffixes : List Suffix)
    (begins : Begins isCloser rest) :
    Begins isDelimiter (suffixes.flatMap Suffix.chars ++ rest) := by
  cases suffixes with
  | nil => exact begins.mono isDelimiter_of_isCloser
  | cons suffix suffixes => cases suffix <;> rfl

/-- Further slots before a closing bracket begin with what closes a slot. -/
theorem begins_moreChars {rest : List Char} (slots : List (Option Expression))
    (begins : Begins isClosingBracket rest) : Begins isCloser (moreChars slots ++ rest) := by
  cases slots with
  | nil => exact begins.mono isCloser_of_isClosingBracket
  | cons slot slots => rfl

/-- A component that is there does not start like what follows a missing one. -/
theorem not_begins_slotChars (expression : Expression) (rest : List Char) :
    ¬ Begins isCloser (slotChars (some expression) ++ rest) := fun begins =>
  begins.not_begins ((begins_text expression).append rest)

/-- Components do not start like what follows an empty list, unless there is one and it is
missing. -/
theorem not_begins_listChars {slot : Option Expression} {slots : List (Option Expression)}
    (visible : slot :: slots ≠ [none]) (rest : List Char) :
    ¬ Begins isClosingBracket (listChars (slot :: slots) ++ rest) := by
  intro begins
  cases slot with
  | some expression =>
    rw [listChars, List.append_assoc] at begins
    exact not_begins_slotChars expression _ (begins.mono isCloser_of_isClosingBracket)
  | none =>
    cases slots with
    | nil => exact visible rfl
    | cons next slots => cases begins

/-- A suffix does not begin with what closes a slot. -/
theorem not_begins_suffix (suffix : Suffix) (rest : List Char) :
    ¬ Begins isCloser (suffix.chars ++ rest) := by
  intro begins
  cases suffix <;> cases begins

end Spine

section Separation

variable {n : Nat} {rest otherRest : List Char}

/-- In texts of at most `n` characters an expression can be told from what follows it. -/
def Separates (n : Nat) : Prop :=
  ∀ {first second : Expression} {rest otherRest : List Char},
    (first.text.toList ++ rest).length ≤ n → Begins isCloser rest →
    Begins isCloser otherRest →
      first.text.toList ++ rest = second.text.toList ++ otherRest →
      first = second ∧ rest = otherRest

/-- A slot can be read before what closes it. -/
theorem slot_inj (separates : Separates n) {first second : Option Expression}
    (fits : (slotChars first ++ rest).length ≤ n) (begins : Begins isCloser rest)
    (otherBegins : Begins isCloser otherRest)
    (same : slotChars first ++ rest = slotChars second ++ otherRest) :
    first = second ∧ rest = otherRest := by
  cases first with
  | none =>
    cases second with
    | none => exact ⟨rfl, same⟩
    | some expression => exact absurd same (begins.ne (not_begins_slotChars expression otherRest))
  | some expression =>
    cases second with
    | none => exact absurd same.symm (otherBegins.ne (not_begins_slotChars expression rest))
    | some other =>
      obtain ⟨rfl, rests⟩ := separates fits begins otherBegins same
      exact ⟨rfl, rests⟩

/-- Further slots can be read before a closing bracket. -/
theorem moreChars_inj (separates : Separates n) {first second : List (Option Expression)}
    (fits : (moreChars first ++ rest).length ≤ n) (begins : Begins isClosingBracket rest)
    (otherBegins : Begins isClosingBracket otherRest)
    (same : moreChars first ++ rest = moreChars second ++ otherRest) :
    first = second ∧ rest = otherRest := by
  induction first generalizing second with
  | nil =>
    cases second with
    | nil => exact ⟨rfl, same⟩
    | cons slot slots => exact absurd same (begins.ne Bool.false_ne_true)
  | cons slot slots inductionHypothesis =>
    cases second with
    | nil => exact absurd same.symm (otherBegins.ne Bool.false_ne_true)
    | cons next others =>
      simp only [moreChars_cons, List.cons_append, List.append_assoc, List.cons.injEq, true_and,
        List.length_cons] at same fits
      obtain ⟨rfl, tails⟩ := slot_inj separates (by omega) (begins_moreChars slots begins)
        (begins_moreChars others otherBegins) same
      rw [List.length_append] at fits
      obtain ⟨rfl, rests⟩ := inductionHypothesis (by omega) tails
      exact ⟨rfl, rests⟩

/-- Components in brackets come apart, except that one missing component looks like none. -/
theorem listChars_inj (separates : Separates n) {first second : List (Option Expression)}
    (visible : first ≠ [none]) (otherVisible : second ≠ [none])
    (fits : (listChars first ++ rest).length ≤ n) (begins : Begins isClosingBracket rest)
    (otherBegins : Begins isClosingBracket otherRest)
    (same : listChars first ++ rest = listChars second ++ otherRest) :
    first = second ∧ rest = otherRest := by
  cases first with
  | nil =>
    cases second with
    | nil => exact ⟨rfl, same⟩
    | cons slot slots => exact absurd same (begins.ne (not_begins_listChars otherVisible otherRest))
  | cons slot slots =>
    cases second with
    | nil => exact absurd same.symm (otherBegins.ne (not_begins_listChars visible rest))
    | cons next others =>
      simp only [listChars, List.append_assoc] at same fits
      obtain ⟨rfl, tails⟩ := slot_inj separates fits (begins_moreChars slots begins)
        (begins_moreChars others otherBegins) same
      rw [List.length_append] at fits
      obtain ⟨rfl, rests⟩ := moreChars_inj separates (by omega) begins otherBegins tails
      exact ⟨rfl, rests⟩

/-- A suffix can be read before a delimiter. -/
theorem suffix_inj (separates : Separates n) {first second : Suffix}
    (fits : (first.chars ++ rest).length ≤ n + 1) (begins : Begins isDelimiter rest)
    (otherBegins : Begins isDelimiter otherRest)
    (same : first.chars ++ rest = second.chars ++ otherRest) :
    first = second ∧ rest = otherRest := by
  cases first with
  | member name =>
    cases second with
    | member other =>
      simp only [Suffix.chars, List.cons_append, List.cons.injEq, true_and] at same
      obtain ⟨names, rests⟩ :=
        word_append_inj (isWord_memberName name) (isWord_memberName other)
        begins otherBegins same
      exact ⟨congrArg Suffix.member (Subtype.ext (String.toList_injective names)), rests⟩
    | index position => simp [Suffix.chars] at same
    | call arguments => simp [Suffix.chars] at same
  | index position =>
    cases second with
    | member other => simp [Suffix.chars] at same
    | index other =>
      simp only [Suffix.chars, List.cons_append, List.append_assoc, List.nil_append,
        List.cons.injEq, true_and, List.length_cons] at same fits
      obtain ⟨rfl, rests⟩ := slot_inj separates (by omega) (by rfl) (by rfl) same
      exact ⟨rfl, List.tail_eq_of_cons_eq rests⟩
    | call arguments => simp [Suffix.chars] at same
  | call arguments =>
    cases second with
    | member other => simp [Suffix.chars] at same
    | index position => simp [Suffix.chars] at same
    | call others =>
      simp only [Suffix.chars, List.cons_append, List.append_assoc, List.nil_append,
        List.cons.injEq, true_and, List.length_cons] at same fits
      obtain ⟨slots, rests⟩ := listChars_inj separates (by simp) (by simp) (by omega) (by rfl)
        (by rfl) same
      obtain rfl := (List.map_inj_right fun _ _ => Option.some.inj).mp slots
      exact ⟨rfl, List.tail_eq_of_cons_eq rests⟩

/-- Suffixes can be read before what closes a slot. -/
theorem suffixes_inj (separates : Separates n) {first second : List Suffix}
    (fits : (first.flatMap Suffix.chars ++ rest).length ≤ n + 1) (begins : Begins isCloser rest)
    (otherBegins : Begins isCloser otherRest)
    (same : first.flatMap Suffix.chars ++ rest = second.flatMap Suffix.chars ++ otherRest) :
    first = second ∧ rest = otherRest := by
  induction first generalizing second with
  | nil =>
    cases second with
    | nil => exact ⟨rfl, same⟩
    | cons suffix suffixes =>
      rw [List.flatMap_cons, List.append_assoc] at same
      exact absurd same (begins.ne (not_begins_suffix suffix _))
  | cons suffix suffixes inductionHypothesis =>
    cases second with
    | nil =>
      rw [List.flatMap_cons, List.append_assoc] at same
      exact absurd same.symm (otherBegins.ne (not_begins_suffix suffix _))
    | cons next others =>
      rw [List.flatMap_cons, List.append_assoc] at same fits
      rw [List.flatMap_cons, List.append_assoc] at same
      obtain ⟨rfl, tails⟩ := suffix_inj separates fits (begins_suffixes suffixes begins)
        (begins_suffixes others otherBegins) same
      rw [List.length_append] at fits
      obtain ⟨rfl, rests⟩ := inductionHypothesis (by omega) tails
      exact ⟨rfl, rests⟩

/-- The slots of an array are not one empty slot. -/
theorem arraySlots_ne (missing : Nat) (first : Expression) (slots : List (Option Expression)) :
    arraySlots missing first slots ≠ [none] := by
  intro same
  have mem : some first ∈ arraySlots missing first slots := by simp [arraySlots]
  simp [same] at mem

/-- The components of an inline array say how many are missing in front. -/
theorem arraySlots_inj {missing otherMissing : Nat} {first second : Expression}
    {slots others : List (Option Expression)}
    (same : arraySlots missing first slots = arraySlots otherMissing second others) :
    missing = otherMissing ∧ first = second ∧ slots = others := by
  induction missing generalizing otherMissing with
  | zero =>
    cases otherMissing with
    | zero => simpa [arraySlots] using same
    | succ otherMissing => simp [arraySlots, List.replicate_succ] at same
  | succ missing inductionHypothesis =>
    cases otherMissing with
    | zero => simp [arraySlots, List.replicate_succ] at same
    | succ otherMissing =>
      simp only [arraySlots, List.replicate_succ, List.cons_append, List.cons.injEq,
        true_and] at same
      obtain ⟨rfl, rests⟩ := inductionHypothesis same
      exact ⟨rfl, rests⟩

/-- Heads with the same characters open in the same way. -/
theorem opening?_eq {first second : Expression} (isHead : first.isHead = true)
    (isOther : second.isHead = true)
    (same : first.text.toList ++ rest = second.text.toList ++ otherRest) :
    first.opening? = second.opening? := by
  have starts := (begins_head isHead).append rest
  have otherStarts := (begins_head isOther).append otherRest
  rw [← same] at otherStarts
  cases chars : first.text.toList ++ rest with
  | nil => simp [chars, Begins] at starts
  | cons c tail =>
    rw [chars, begins_cons, beq_iff_eq] at starts otherStarts
    rw [starts, otherStarts]

/-- The first component in round brackets, and what follows it up to the closing bracket. -/
def roundParts : Expression → Option Expression × List Char
  | .binary left operator right =>
    (some left, ' ' :: (operator.1.toList ++ ' ' :: (right.text.toList ++ [')'])))
  | .group inner => (some inner, [')'])
  | .tuple first second slots => (first, moreChars (second :: slots) ++ [')'])
  | _ => (none, [])

/-- The characters of a head that opens with a parenthesis: its first slot and what follows. -/
theorem toList_round {head : Expression} (round : head.opening? = some '(') :
    head.text.toList = '(' :: (slotChars head.roundParts.1 ++ head.roundParts.2) := by
  cases head with
  | binary left operator right => exact toList_binary left right operator
  | group inner => exact toList_group inner
  | tuple first second slots => exact toList_tuple first second slots
  | _ => cases round

/-- What follows the first slot in parentheses begins with what closes it. -/
theorem begins_roundParts {head : Expression} (round : head.opening? = some '(') :
    Begins isCloser head.roundParts.2 := by
  cases head with
  | binary left operator right => rfl
  | group inner => rfl
  | tuple first second slots => rfl
  | _ => cases round

/-- An operation is told from a tuple by what follows its first component. -/
theorem round_inj (separates : Separates n) {first second : Expression}
    (round : first.opening? = some '(') (otherRound : second.opening? = some '(')
    (fits : (first.text.toList ++ rest).length ≤ n + 1)
    (same : first.text.toList ++ rest = second.text.toList ++ otherRest) :
    first = second ∧ rest = otherRest := by
  rw [toList_round round, toList_round otherRound] at same
  rw [toList_round round] at fits
  simp only [List.cons_append, List.append_assoc, List.cons.injEq, true_and,
    List.length_cons] at same fits
  obtain ⟨slots, tails⟩ := slot_inj separates (by omega) ((begins_roundParts round).append rest)
    ((begins_roundParts otherRound).append otherRest) same
  rw [List.length_append] at fits
  cases first with
  | binary left operator right =>
    cases second with
    | binary otherLeft otherOperator otherRight =>
      simp only [roundParts, List.cons_append, List.append_assoc, List.nil_append, List.cons.injEq,
        true_and, Option.some.injEq, List.length_cons] at slots tails fits
      subst slots
      obtain ⟨operators, tails⟩ := word_append_inj (isWord_operator operator)
        (isWord_operator otherOperator) (by rfl) (by rfl) tails
      rw [List.length_append, List.length_cons] at fits
      obtain ⟨rfl, rests⟩ :=
        separates (by omega) (by rfl) (by rfl) (List.tail_eq_of_cons_eq tails)
      obtain rfl := Subtype.ext (String.toList_injective operators)
      exact ⟨rfl, List.tail_eq_of_cons_eq rests⟩
    | group inner => simp [roundParts] at tails
    | tuple slot next others => simp [roundParts, moreChars_cons] at tails
    | _ => cases otherRound
  | group inner =>
    cases second with
    | binary left operator right => simp [roundParts] at tails
    | group other =>
      simp only [roundParts, Option.some.injEq] at slots
      exact ⟨congrArg group slots, List.tail_eq_of_cons_eq tails⟩
    | tuple slot next others => simp [roundParts, moreChars_cons] at tails
    | _ => cases otherRound
  | tuple slot next others =>
    cases second with
    | binary left operator right => simp [roundParts, moreChars_cons] at tails
    | group inner => simp [roundParts, moreChars_cons] at tails
    | tuple otherSlot otherNext otherOthers =>
      simp only [roundParts, List.append_assoc, List.cons_append, List.nil_append]
        at slots tails fits
      subst slots
      obtain ⟨more, rests⟩ := moreChars_inj separates (by omega) (by rfl) (by rfl) tails
      obtain ⟨rfl, rfl⟩ := List.cons.inj more
      exact ⟨rfl, List.tail_eq_of_cons_eq rests⟩
    | _ => cases otherRound
  | _ => cases round

/-- An array can be read, whatever follows it. -/
theorem square_inj (separates : Separates n) {missing otherMissing : Nat}
    {first second : Expression} {slots others : List (Option Expression)}
    (fits : ((array missing first slots).text.toList ++ rest).length ≤ n + 1)
    (same : (array missing first slots).text.toList ++ rest =
      (array otherMissing second others).text.toList ++ otherRest) :
    array missing first slots = array otherMissing second others ∧ rest = otherRest := by
  simp only [toList_array, List.cons_append, List.append_assoc, List.nil_append, List.cons.injEq,
    true_and, List.length_cons] at same fits
  obtain ⟨components, rests⟩ := listChars_inj separates (arraySlots_ne missing first slots)
    (arraySlots_ne otherMissing second others) (by omega) (by rfl) (by rfl) same
  obtain ⟨rfl, rfl, rfl⟩ := arraySlots_inj components
  exact ⟨rfl, List.tail_eq_of_cons_eq rests⟩

/-- A head can be read before a delimiter. -/
theorem head_inj (separates : Separates n) {first second : Expression}
    (isHead : first.isHead = true) (isOther : second.isHead = true)
    (fits : (first.text.toList ++ rest).length ≤ n + 1) (begins : Begins isDelimiter rest)
    (otherBegins : Begins isDelimiter otherRest)
    (same : first.text.toList ++ rest = second.text.toList ++ otherRest) :
    first = second ∧ rest = otherRest := by
  have openings := opening?_eq isHead isOther same
  cases first with
  | identifier name =>
    cases second with
    | identifier other =>
      obtain ⟨names, rests⟩ := word_append_inj (isWord_name name) (isWord_name other) begins
        otherBegins same
      exact ⟨congrArg identifier (Subtype.ext (String.toList_injective names)), rests⟩
    | number digits =>
      obtain ⟨words, -⟩ := word_append_inj (isWord_name name) (isWord_digits digits) begins
        otherBegins same
      exact absurd words (name_ne_digits name digits)
    | member _ _ | index _ _ | call _ _ => cases isOther
    | _ => cases openings
  | number digits =>
    cases second with
    | identifier name =>
      obtain ⟨words, -⟩ := word_append_inj (isWord_digits digits) (isWord_name name) begins
        otherBegins same
      exact absurd words.symm (name_ne_digits name digits)
    | number other =>
      obtain ⟨values, rests⟩ :=
        word_append_inj (isWord_digits digits) (isWord_digits other) begins
        otherBegins same
      exact ⟨congrArg number (Subtype.ext (String.toList_injective values)), rests⟩
    | member _ _ | index _ _ | call _ _ => cases isOther
    | _ => cases openings
  | array missing inner slots =>
    cases second with
    | array otherMissing otherInner others => exact square_inj separates fits same
    | _ => cases openings
  | binary _ _ _ | group _ | tuple _ _ _ => exact round_inj separates rfl openings.symm fits same
  | member _ _ | index _ _ | call _ _ => cases isHead

/-- An expression comes apart in a longer text if expressions in shorter texts do. -/
theorem Separates.succ (separates : Separates n) : Separates (n + 1) := by
  intro first second rest otherRest fits begins otherBegins same
  obtain ⟨head, suffixes, isHead, rfl⟩ := exists_extended first
  obtain ⟨otherHead, others, isOther, rfl⟩ := exists_extended second
  rw [toList_extended, List.append_assoc] at fits
  rw [toList_extended, toList_extended, List.append_assoc, List.append_assoc] at same
  obtain ⟨rfl, tails⟩ :=
    head_inj separates isHead isOther fits (begins_suffixes suffixes begins)
    (begins_suffixes others otherBegins) same
  rw [List.length_append] at fits
  obtain ⟨rfl, rests⟩ := suffixes_inj separates (by omega) begins otherBegins tails
  exact ⟨rfl, rests⟩

/-- Expressions can be read, however long they are. -/
theorem separates_all (n : Nat) : Separates n := by
  induction n with
  | zero =>
    intro first second rest otherRest fits begins otherBegins same
    cases rest with
    | nil => cases begins
    | cons c tail => simp at fits
  | succ n inductionHypothesis => exact inductionHypothesis.succ

end Separation

/-- The text of an expression says which expression it is. -/
theorem text_injective : Function.Injective text := by
  intro first second same
  -- With a space behind both, the texts can be told from what follows them.
  have spaced : first.text.toList ++ [' '] = second.text.toList ++ [' '] := by rw [same]
  exact (separates_all _ (Nat.le_refl _) (by rfl) (by rfl) spaced).1

/-- Nodes that stand for different expressions have different texts, and nodes that stand for the
same expression have the same. -/
theorem unparse_eq_unparse_iff {first second : Expression} {node other : Node}
    (encodes : first.Encodes node) (otherEncodes : second.Encodes other) :
    node.unparse = other.unparse ↔ first = second := by
  rw [unparse_of_encodes first encodes, unparse_of_encodes second otherEncodes]
  exact text_injective.eq_iff

/-- A call with two arguments, `f(a, b)`, and a call with a pair, `f((a, b))`. -/
theorem unparse_arguments_ne_unparse_pair :
    (call (identifier ⟨"f", by decide⟩)
        [identifier ⟨"a", by decide⟩, identifier ⟨"b", by decide⟩]).toNode.unparse ≠
      (call (identifier ⟨"f", by decide⟩)
        [tuple (some (identifier ⟨"a", by decide⟩)) (some (identifier ⟨"b", by decide⟩))
          []]).toNode.unparse := by
  intro same
  have calls := (unparse_eq_unparse_iff (encodes_toNode _) (encodes_toNode _)).mp same
  simp at calls

end SourceTrace.Ast.Expression

import SourceTrace.Proofs.Text.Joining
import SourceTrace.Text.Blank
import SourceTrace.Text.Bracket
import SourceTrace.Text.Lines

/-!
# Nested brackets

A text is nested if each bracket in it is closed by its counterpart and pairs do not cross. Reading
keeps the closing brackets that are still awaited, innermost first. A nested text leaves what is
awaited around it as it was (`IsNested.foldlM`), and so nested texts can be put behind one another,
between brackets, and between separators.
-/

namespace SourceTrace.Text

/-- The counterpart of an opening bracket. -/
def closing? : Char → Option Char
  | '(' => some ')'
  | '[' => some ']'
  | '\x7b' => some '\x7d'
  | _ => none

/-- Whether a character is a closing bracket. -/
def isClosing (c : Char) : Bool :=
  c = ')' || c = ']' || c = '\x7d'

/-- Whether a character is a round, square or curly bracket. -/
def isBracket (c : Char) : Bool :=
  (closing? c).isSome || isClosing c

/-- The closing brackets that are awaited after a character, innermost first. A closing bracket that
is not the innermost awaited one is refused. -/
def readBracket (awaited : List Char) (c : Char) : Option (List Char) :=
  match closing? c with
  | some closing => some (closing :: awaited)
  | none =>
    if isClosing c then
      match awaited with
      | innermost :: outer => if innermost = c then some outer else none
      | [] => none
    else some awaited

/-- The brackets of a text are properly nested. -/
def IsNested (text : String) : Prop :=
  text.toList.foldlM readBracket [] = some []

/-- Whether a text is nested is found out by reading it. -/
instance (text : String) : Decidable (IsNested text) :=
  inferInstanceAs (Decidable (_ = _))

/-- Whether a text has no brackets. -/
def isPlain (text : String) : Bool :=
  text.toList.all fun c => !isBracket c

example : IsNested "f(a[0], \x7bx: (1)\x7d)" ∧ ¬ IsNested "([)]" ∧ ¬ IsNested ")(" := by
  decide

/-- There are six brackets. -/
theorem mem_brackets_of_isBracket {c : Char} (bracket : isBracket c = true) :
    c ∈ ['(', ')', '[', ']', '\x7b', '\x7d'] := by
  simp only [isBracket, closing?, isClosing] at bracket
  split at bracket <;> simp_all [or_assoc]

/-- A text is plain exactly if no character of it is a bracket. -/
theorem isPlain_iff {text : String} :
    isPlain text = true ↔ ∀ c ∈ text.toList, isBracket c = false := by
  simp [isPlain]

/-- Characters of a plain text make up plain texts. -/
theorem isPlain_of_subset {text part : String} (plain : isPlain text = true)
    (subset : ∀ c ∈ part.toList, c ∈ text.toList) : isPlain part = true :=
  isPlain_iff.mpr fun c mem => isPlain_iff.mp plain c (subset c mem)

section Reading

variable {awaited after : List Char} {c : Char} {chars : List Char} {text other : String}

/-- A character that can be read can be read inside further brackets. -/
theorem readBracket_append (read : readBracket awaited c = some after) (outer : List Char) :
    readBracket (awaited ++ outer) c = some (after ++ outer) := by
  simp only [readBracket] at read ⊢
  split at read
  · cases read
    rfl
  · split at read
    · cases awaited with
      | nil => cases read
      | cons innermost rest =>
        dsimp only at read
        split at read
        · cases read
          rename_i closes same
          simp [closes, same]
        · cases read
    · cases read
      rename_i plain
      simp [plain]

/-- Brackets that are awaited outside do not change how a text is read. -/
theorem foldlM_readBracket_append (read : chars.foldlM readBracket awaited = some after)
    (outer : List Char) :
    chars.foldlM readBracket (awaited ++ outer) = some (after ++ outer) := by
  induction chars generalizing awaited with
  | nil =>
    cases read
    rfl
  | cons c rest inductionHypothesis =>
    rw [List.foldlM_cons] at read ⊢
    obtain ⟨middle, first, later⟩ := Option.bind_eq_some_iff.mp read
    rw [readBracket_append first outer]
    exact inductionHypothesis later

/-- A character that is no bracket changes nothing. -/
theorem readBracket_of_isBracket_eq_false (awaited : List Char) (plain : isBracket c = false) :
    readBracket awaited c = some awaited := by
  simp only [isBracket, Bool.or_eq_false_iff, Option.isSome_eq_false_iff,
    Option.isNone_iff_eq_none] at plain
  simp [readBracket, plain]

/-- Characters that are no brackets change nothing. -/
theorem foldlM_readBracket_of_plain (awaited : List Char)
    (plain : ∀ c ∈ chars, isBracket c = false) :
    chars.foldlM readBracket awaited = some awaited := by
  induction chars with
  | nil => rfl
  | cons c rest inductionHypothesis =>
    rw [List.foldlM_cons, readBracket_of_isBracket_eq_false awaited (plain c List.mem_cons_self)]
    exact inductionHypothesis fun c mem => plain c (List.mem_cons_of_mem _ mem)

/-- A nested text closes what it opens and nothing else. -/
theorem IsNested.foldlM (nested : IsNested text) (awaited : List Char) :
    text.toList.foldlM readBracket awaited = some awaited :=
  foldlM_readBracket_append nested awaited

/-- A text without brackets is nested. -/
theorem isNested_of_isPlain (plain : isPlain text = true) : IsNested text :=
  foldlM_readBracket_of_plain [] (isPlain_iff.mp plain)

/-- The empty text is nested. -/
theorem isNested_empty : IsNested "" := rfl

/-- Two nested texts in a row are nested. -/
theorem IsNested.append (nested : IsNested text) (also : IsNested other) :
    IsNested (text ++ other) := by
  rw [IsNested, String.toList_append, List.foldlM_append, nested.foldlM]
  exact also

/-- A plain text behind another one makes no difference. -/
theorem isNested_append_plain_iff (plain : isPlain other = true) :
    IsNested (text ++ other) ↔ IsNested text := by
  constructor
  · intro nested
    rw [IsNested, String.toList_append, List.foldlM_append] at nested
    obtain ⟨middle, first, later⟩ := Option.bind_eq_some_iff.mp nested
    rw [foldlM_readBracket_of_plain middle (isPlain_iff.mp plain)] at later
    cases later
    exact first
  · intro nested
    exact nested.append (isNested_of_isPlain plain)

end Reading

namespace IsNested

variable {text : String} {texts : List String}

/-- A nested text behind a plain one; literals are plain by evaluation. -/
theorem after (nested : IsNested text) (before : String) (plain : isPlain before = true) :
    IsNested (before ++ text) :=
  (isNested_of_isPlain plain).append nested

/-- A nested text in front of a plain one. -/
theorem before (nested : IsNested text) (after : String) (plain : isPlain after = true) :
    IsNested (text ++ after) :=
  nested.append (isNested_of_isPlain plain)

/-- A choice between two nested texts is nested. -/
theorem ite {other : String} {condition : Prop} [Decidable condition] (nested : IsNested text)
    (also : IsNested other) : IsNested (if condition then text else other) := by
  split
  · exact nested
  · exact also

/-- A nested text between a bracket and its counterpart. -/
theorem enclosed (nested : IsNested text) {opening closing : String} (counterpart : Char)
    (opens : opening.toList.foldlM readBracket [] = some [counterpart])
    (closes : closing.toList.foldlM readBracket [counterpart] = some []) :
    IsNested (opening ++ text ++ closing) := by
  simp only [IsNested, String.toList_append, List.foldlM_append, opens, Option.bind_eq_bind,
    Option.bind_some, nested.foldlM, closes]

/-- A nested text in quotes is nested. -/
theorem doubleQuotes (nested : IsNested text) : IsNested (Text.doubleQuotes text) :=
  (nested.after "\"" rfl).before "\"" rfl

/-- A nested text in parentheses is nested. -/
theorem parens (nested : IsNested text) : IsNested (Text.parens text) :=
  nested.enclosed ')' (by decide) (by decide)

/-- A nested text in square brackets is nested. -/
theorem squares (nested : IsNested text) : IsNested (Text.squares text) :=
  nested.enclosed ']' (by decide) (by decide)

/-- A nested text in braces is nested. -/
theorem braces (nested : IsNested text) : IsNested (Text.braces text) :=
  nested.enclosed '\x7d' (by decide) (by decide)

/-- Nested texts with a nested text between them are nested. -/
theorem intercalate {separator : String} (between : IsNested separator)
    (nested : ∀ piece ∈ texts, IsNested piece) : IsNested (separator.intercalate texts) := by
  induction texts with
  | nil =>
    rw [String.intercalate_nil]
    exact isNested_empty
  | cons piece rest inductionHypothesis =>
    have here := nested piece List.mem_cons_self
    have later := inductionHypothesis fun other mem => nested other (List.mem_cons_of_mem _ mem)
    cases rest with
    | nil => simpa using here
    | cons next rest =>
      rw [String.intercalate_cons_cons]
      exact (here.append between).append later

/-- Nested texts with commas between them are nested. -/
theorem commas (nested : ∀ piece ∈ texts, IsNested piece) : IsNested (Text.commas texts) :=
  intercalate (by decide) nested

/-- Nested texts with spaces between them are nested. -/
theorem spaced (nested : ∀ piece ∈ texts, IsNested piece) : IsNested (Text.spaced texts) :=
  intercalate (by decide) nested

/-- Nested words are nested, with the empty ones left out. -/
theorem words (nested : ∀ piece ∈ texts, IsNested piece) : IsNested (Text.words texts) :=
  spaced fun piece mem => nested piece (List.mem_filter.mp mem).1

/-- Nested texts one behind the other are nested. -/
theorem join (nested : ∀ piece ∈ texts, IsNested piece) : IsNested (String.join texts) := by
  induction texts with
  | nil => exact isNested_empty
  | cons piece rest inductionHypothesis =>
    rw [String.join_cons]
    exact (nested piece List.mem_cons_self).append
      (inductionHypothesis fun other mem => nested other (List.mem_cons_of_mem _ mem))

end IsNested

section Parts

variable {c : Char}

/-- Trimming adds no character. -/
theorem mem_of_mem_trim {text : String} (mem : c ∈ (trim text).toList) : c ∈ text.toList := by
  simp only [trim, dropBlanksEnd, dropBlanks, String.toList_ofList, List.mem_reverse] at mem
  have kept := List.mem_reverse.mp (List.dropWhile_subset _ mem)
  exact List.dropWhile_subset _ kept

/-- Dropping a carriage return adds no character. -/
theorem mem_of_mem_dropReturn {chars : List Char} (mem : c ∈ dropReturn chars) : c ∈ chars := by
  rw [dropReturn] at mem
  split at mem
  · exact List.dropLast_subset chars mem
  · exact mem

/-- A character of a piece is one of the joined pieces. -/
theorem mem_intercalate_of_mem {separator piece : List Char} {pieces : List (List Char)}
    (listed : piece ∈ pieces) (mem : c ∈ piece) : c ∈ separator.intercalate pieces := by
  induction pieces with
  | nil => cases listed
  | cons first rest inductionHypothesis =>
    cases rest with
    | nil =>
      rw [List.mem_singleton] at listed
      rwa [List.intercalate_singleton, ← listed]
    | cons next rest =>
      rw [List.intercalate_cons_cons, List.append_assoc, List.mem_append, List.mem_append]
      rcases List.mem_cons.mp listed with rfl | later
      · exact Or.inl mem
      · exact Or.inr (Or.inr (inductionHypothesis later))

/-- A character of a line is one of the text. -/
theorem mem_of_mem_piece {chars piece : List Char} (listed : piece ∈ chars.splitOn '\n')
    (mem : c ∈ piece) : c ∈ chars := by
  have joined : ['\n'].intercalate (chars.splitOn '\n') = chars := List.intercalate_splitOn '\n'
  rw [← joined]
  exact mem_intercalate_of_mem listed mem

/-- The lines of a text hold no other characters than the text. -/
theorem mem_of_mem_lines {text line : String} (listed : line ∈ lines text)
    (mem : c ∈ line.toList) : c ∈ text.toList := by
  obtain ⟨chars, charsListed, rfl⟩ := List.mem_map.mp listed
  rw [String.toList_ofList] at mem
  rcases List.mem_append.mp charsListed with ended | last
  · obtain ⟨piece, pieceListed, rfl⟩ := List.mem_map.mp ended
    exact mem_of_mem_piece (List.dropLast_subset _ pieceListed) (mem_of_mem_dropReturn mem)
  · have pieceListed := Option.mem_toList.mp (List.mem_filter.mp last).1
    exact mem_of_mem_piece (List.mem_of_getLast? pieceListed) mem

end Parts

end SourceTrace.Text

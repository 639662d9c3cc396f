import SourceTrace.Proofs.SourceMap.Inheritance
import SourceTrace.Proofs.Text.Joining
import SourceTrace.Proofs.Text.Numerals

/-!
# Legal compressions of source maps

An entry may leave a field blank where the entry before it has the same value, and may drop blank
fields at its end together with their colons. A list of entries has many such spellings.
`resolve_parse_compressed` shows that all of them are read back to the same entries.

The argument follows the entries: after each of them the texts in force are exactly the texts of its
five fields, whatever was left out.
-/

namespace SourceTrace.SourceMap

open Text (mem_intercalate splitOn_toList_intercalate)

/-- An entry in which all five fields have a value. -/
structure FullEntry where
  /-- Start of the source range in bytes. -/
  offset : Int64
  /-- Length of the source range in bytes. -/
  length : Int64
  /-- Number of the source file. -/
  fileId : Int64
  /-- Kind of jump. -/
  jump : Jump
  /-- Modifier depth. -/
  modifiers : UInt64
  deriving DecidableEq, Repr

namespace FullEntry

/-- The entry that resolving a full entry should give. -/
def toEntry (entry : FullEntry) : Entry where
  offset := entry.offset
  length := entry.length
  fileId := entry.fileId
  jump := some entry.jump
  modifiers := some entry.modifiers

/-- The text of a field, with numbers in decimal. -/
def text (entry : FullEntry) : Field → String
  | .offset => Text.signedDecimal entry.offset.toInt
  | .length => Text.signedDecimal entry.length.toInt
  | .fileId => Text.signedDecimal entry.fileId.toInt
  | .jump => entry.jump.letter
  | .modifiers => Text.decimal entry.modifiers.toNat

/-- Two entries have the same value in a field. -/
def SameAt (first second : FullEntry) : Field → Prop
  | .offset => first.offset = second.offset
  | .length => first.length = second.length
  | .fileId => first.fileId = second.fileId
  | .jump => first.jump = second.jump
  | .modifiers => first.modifiers = second.modifiers

end FullEntry

/-- The fields in the order in which they are written. -/
def Field.inOrder : List Field :=
  [.offset, .length, .fileId, .jump, .modifiers]

/-- What is written for a field: nothing if it is blank. -/
def FullEntry.component (entry : FullEntry) (blank : Field → Bool) (field : Field) : String :=
  if blank field then "" else entry.text field

/-- An entry written with the first `kept` of its fields. -/
def FullEntry.written (entry : FullEntry) (blank : Field → Bool) (kept : Nat) : String :=
  ":".intercalate ((Field.inOrder.take kept).map (entry.component blank))

/-- A text spells an entry after the one before it, if any. Only a field with the same value in the
entry before may be blank, and only blank fields may be dropped at the end. -/
def FullEntry.Spells (before? : Option FullEntry) (entry : FullEntry) (text : String) : Prop :=
  ∃ blank kept,
    (∀ field, blank field = true →
      ∃ before, before? = some before ∧ before.SameAt entry field) ∧
    (∀ field, kept ≤ field.position → blank field = true) ∧
    text = entry.written blank kept

/-- Texts that spell entries one after the other, each after the one before it. -/
inductive Compresses : Option FullEntry → List FullEntry → List String → Prop where
  /-- Nothing is left to spell. -/
  | nil (before? : Option FullEntry) : Compresses before? [] []
  /-- The next entry is spelled, and the others after it. -/
  | cons {before? : Option FullEntry} {entry : FullEntry} {text : String}
      {entries : List FullEntry} {texts : List String} (spells : entry.Spells before? text)
      (rest : Compresses (some entry) entries texts) :
      Compresses before? (entry :: entries) (text :: texts)

namespace FullEntry

/-- The texts of all fields. -/
def texts (entry : FullEntry) : Texts :=
  fun field => some (entry.text field)

/-- The full printed form of an entry is one of its spellings. -/
theorem spells_render (before? : Option FullEntry) (entry : FullEntry) :
    entry.Spells before? entry.toEntry.render := by
  refine ⟨fun _ => false, 5, ?_, ?_, rfl⟩
  · intro field blank
    cases blank
  · intro field outside
    cases field <;> simp [Field.position] at outside

/-- Entries that agree in a field have the same text for it. -/
theorem text_eq_of_sameAt {first second : FullEntry} {field : Field}
    (same : first.SameAt second field) : first.text field = second.text field := by
  cases field <;> simp_all [SameAt, text]

/-- The texts of all fields spell the entry. -/
theorem spelled?_texts (entry : FullEntry) : entry.texts.spelled? = some entry.toEntry := by
  simp [Texts.spelled?, texts, text, toEntry, Text.readSigned?_signedDecimal,
    Text.readUnsigned?_decimal, Jump.ofLetter?_letter]

end FullEntry

/-- The characters from which the texts of fields are made. -/
def isFieldCharacter (c : Char) : Bool :=
  c.isDigit || c == '-' || c == 'i' || c == 'o'

/-- The text of a field is made of field characters. -/
theorem isFieldCharacter_of_mem_text {entry : FullEntry} {field : Field} {c : Char}
    (mem : c ∈ (entry.text field).toList) : isFieldCharacter c = true := by
  have signed {value : Int} (mem : c ∈ (Text.signedDecimal value).toList) :
      isFieldCharacter c = true := by
    rcases Text.isDigit_or_eq_of_mem_signedDecimal mem with digit | rfl
    · simp [isFieldCharacter, digit]
    · rfl
  cases field with
  | offset => exact signed mem
  | length => exact signed mem
  | fileId => exact signed mem
  | jump =>
    revert mem
    cases jump : entry.jump <;> simp +contextual [FullEntry.text, jump, Jump.letter,
      isFieldCharacter]
  | modifiers => simp [isFieldCharacter, Text.isDigit_of_mem_decimal mem]

/-- A field character is no separator. -/
theorem ne_separator_of_isFieldCharacter {c : Char} (plain : isFieldCharacter c = true) :
    c ≠ ':' ∧ c ≠ ';' := by
  constructor
  · rintro rfl
    cases plain
  · rintro rfl
    cases plain

/-- A field character is no blank. -/
theorem isBlank_of_isFieldCharacter {c : Char} (plain : isFieldCharacter c = true) :
    Text.isBlank c = false := by
  simp only [isFieldCharacter, Bool.or_eq_true, beq_iff_eq] at plain
  rcases plain with ((digit | rfl) | rfl) | rfl
  · exact Text.isBlank_of_isDigit digit
  · rfl
  · rfl
  · rfl

/-- No field has an empty text, since an empty text is a value of no field. -/
theorem text_ne_empty (entry : FullEntry) (field : Field) : entry.text field ≠ "" := by
  intro empty
  have accepted : field.accepts (entry.text field) = true := by
    cases field <;> simp [Field.accepts, FullEntry.text, Text.readSigned?_signedDecimal,
      Text.readUnsigned?_decimal, Jump.ofLetter?_letter]
  have refused : field.accepts "" = false := by
    cases field <;> rfl
  rw [empty, refused] at accepted
  cases accepted

namespace FullEntry

section Written

variable {entry : FullEntry} {blank : Field → Bool} {kept : Nat}

/-- A field is made of field characters, also if it is left blank. -/
theorem isFieldCharacter_of_mem_component {field : Field} {c : Char}
    (mem : c ∈ (entry.component blank field).toList) : isFieldCharacter c = true := by
  rw [component] at mem
  split at mem
  · simp at mem
  · exact isFieldCharacter_of_mem_text mem

/-- A written entry is made of field characters and colons. -/
theorem isFieldCharacter_or_eq_of_mem_written {c : Char}
    (mem : c ∈ (entry.written blank kept).toList) : isFieldCharacter c = true ∨ c = ':' := by
  rw [written] at mem
  rcases mem_intercalate mem with colon | ⟨piece, member, here⟩
  · exact Or.inr (List.mem_singleton.mp colon)
  · obtain ⟨field, -, rfl⟩ := List.mem_map.mp member
    exact Or.inl (isFieldCharacter_of_mem_component here)

/-- The fields that were kept are read back. -/
theorem fieldsOf_written (positive : 0 < kept) :
    fieldsOf (entry.written blank kept) =
      (Field.inOrder.take kept).map (entry.component blank) := by
  rw [fieldsOf, written]
  apply splitOn_toList_intercalate
  · intro piece member colon
    obtain ⟨field, -, rfl⟩ := List.mem_map.mp member
    exact (ne_separator_of_isFieldCharacter (isFieldCharacter_of_mem_component colon)).1 rfl
  · cases kept with
    | zero => cases positive
    | succ kept => simp [Field.inOrder]

/-- A written entry gives the fields that are not blank. -/
theorem given?_written (dropped : ∀ field, kept ≤ field.position → blank field = true)
    (field : Field) :
    given? (entry.written blank kept) field =
      if blank field then none else some (entry.text field) := by
  have placed : Field.inOrder[field.position]? = some field := by
    cases field <;> rfl
  by_cases inside : field.position < kept
  · rw [given?, fieldsOf_written (by omega), List.getElem?_map, List.getElem?_take, if_pos inside,
      placed, Option.map_some, component]
    split
    · rfl
    · simp [Option.filter, text_ne_empty]
  · rw [dropped field (by omega), if_pos rfl]
    -- A text without fields is one empty component, not none, so it is looked at apart.
    cases kept with
    | zero => exact given?_empty field
    | succ kept =>
      rw [given?, fieldsOf_written (by omega), List.getElem?_map, List.getElem?_take,
        if_neg inside]
      rfl

end Written

/-- Whatever a spelling leaves out, the texts in force after it are those of its entry. -/
theorem overwrite_of_spells {before? : Option FullEntry} {entry : FullEntry} {text : String}
    {inForce : Texts} (spells : entry.Spells before? text)
    (known : ∀ before, before? = some before → inForce = before.texts) :
    inForce.overwrite text = entry.texts := by
  obtain ⟨blank, kept, allowed, dropped, rfl⟩ := spells
  funext field
  rw [Texts.overwrite, given?_written dropped, texts]
  by_cases isBlank : blank field = true
  · obtain ⟨before, present, same⟩ := allowed field isBlank
    rw [if_pos isBlank, Option.none_or, known before present, texts, text_eq_of_sameAt same]
  · rw [if_neg isBlank, Option.some_or]

end FullEntry

namespace Compresses

variable {before? : Option FullEntry} {entries : List FullEntry} {texts : List String}

/-- Compressing keeps the number of entries. -/
theorem length_eq (compresses : Compresses before? entries texts) :
    texts.length = entries.length := by
  induction compresses with
  | nil => rfl
  | cons spells rest inductionHypothesis => simp [inductionHypothesis]

/-- Every compressed entry is an entry that is spelled against the one before. -/
theorem exists_spells_of_mem (compresses : Compresses before? entries texts) {text : String}
    (mem : text ∈ texts) : ∃ before? entry, FullEntry.Spells before? entry text := by
  induction compresses with
  | nil => cases mem
  | cons spells rest inductionHypothesis =>
    rcases List.mem_cons.mp mem with rfl | later
    · exact ⟨_, _, spells⟩
    · exact inductionHypothesis later

/-- After each spelled entry the texts in force are those of the entry. -/
theorem foldl_overwrite_eq (compresses : Compresses before? entries texts) {inForce : Texts}
    (known : ∀ before, before? = some before → inForce = before.texts) {index : Nat}
    {entry : FullEntry} (found : entries[index]? = some entry) :
    (texts.take (index + 1)).foldl Texts.overwrite inForce = entry.texts := by
  induction compresses generalizing inForce index with
  | nil => cases found
  | cons spells rest inductionHypothesis =>
    have step := FullEntry.overwrite_of_spells spells known
    rw [List.take_succ_cons, List.foldl_cons, step]
    cases index with
    | zero =>
      cases found
      rfl
    | succ index =>
      apply inductionHypothesis
      · rintro before ⟨rfl⟩
        rfl
      · exact found

/-- Joined spellings are split into the spellings again. -/
theorem parse_intercalate (compresses : Compresses before? entries texts)
    (nonempty : entries ≠ []) :
    parse (";".intercalate texts) = ⟨texts⟩ := by
  have plain {text : String} (mem : text ∈ texts) {c : Char} (here : c ∈ text.toList) :
      isFieldCharacter c = true ∨ c = ':' := by
    obtain ⟨_, entry, blank, kept, -, -, rfl⟩ := compresses.exists_spells_of_mem mem
    exact FullEntry.isFieldCharacter_or_eq_of_mem_written here
  have trimmed : Text.trim (";".intercalate texts) = ";".intercalate texts := by
    apply Text.trim_eq_self
    intro c mem
    rcases mem_intercalate mem with semicolon | ⟨text, member, here⟩
    · rw [List.mem_singleton.mp semicolon]
      rfl
    · rcases plain member here with field | rfl
      · exact isBlank_of_isFieldCharacter field
      · rfl
  rw [parse, trimmed]
  congr 1
  apply splitOn_toList_intercalate
  · intro text member semicolon
    rcases plain member semicolon with field | colon
    · exact (ne_separator_of_isFieldCharacter field).2 rfl
    · cases colon
  · intro empty
    apply nonempty
    rw [← List.length_eq_zero_iff, ← compresses.length_eq, empty, List.length_nil]

end Compresses

/-- Parsing inverts every legal compression: each spelling of a list of entries has one entry for
each of them, and each of them is resolved to all of its fields. -/
theorem resolve_parse_compressed {entries : List FullEntry} {texts : List String}
    (nonempty : entries ≠ []) (compresses : Compresses none entries texts) :
    (parse (";".intercalate texts)).size = entries.length ∧
      ∀ index entry, entries[index]? = some entry →
        (parse (";".intercalate texts)).resolve index = .ok entry.toEntry := by
  rw [compresses.parse_intercalate nonempty]
  refine ⟨compresses.length_eq, ?_⟩
  intro index entry found
  have inside : index < (SourceMap.mk texts).size := by
    rw [size, compresses.length_eq]
    exact (List.getElem?_eq_some_iff.mp found).1
  have inForce : Texts.inForce (texts.take (index + 1)) = entry.texts := by
    apply compresses.foldl_overwrite_eq _ found
    intro before absent
    cases absent
  rw [resolve_eq_ok_iff, decompressed?, if_pos inside, inForce, FullEntry.spelled?_texts]

/-- Four entries of which the second is written without what it shares with the first, the third
not at all, and the last with a blank in its middle. -/
theorem resolve_parse_compressed_four :
    let entries : List FullEntry := [⟨120, 35, 0, .regular, 0⟩, ⟨120, 35, 0, .into, 0⟩,
      ⟨120, 35, 0, .into, 0⟩, ⟨-9223372036854775808, 7, -1, .into, 18446744073709551615⟩]
    let texts := ["120:35:0:-:0", ":::i", "", "-9223372036854775808:7:-1::18446744073709551615"]
    entries ≠ [] ∧ Compresses none entries texts ∧
      (parse (";".intercalate texts)).size = 4 ∧
      (parse (";".intercalate texts)).resolve 3 =
        .ok ⟨-9223372036854775808, 7, -1, some .into, some 18446744073709551615⟩ := by
  intro entries texts
  have nonempty : entries ≠ [] := by simp [entries]
  have compresses : Compresses none entries texts := by
    refine .cons (FullEntry.spells_render none _)
      (.cons ?second (.cons ?third (.cons ?last (.nil _))))
    case second =>
      refine ⟨fun field => field != .jump, 4, ?_, ?_, rfl⟩
      · intro field blank
        cases field <;> simp [FullEntry.SameAt] at blank ⊢
      · intro field outside
        cases field <;> simp [Field.position] at outside ⊢
    case third =>
      refine ⟨fun _ => true, 0, ?_, fun _ _ => rfl, rfl⟩
      intro field _
      cases field <;> simp [FullEntry.SameAt]
    case last =>
      refine ⟨fun field => field == .jump, 5, ?_, ?_, rfl⟩
      · intro field blank
        cases field <;> simp [FullEntry.SameAt] at blank ⊢
      · intro field outside
        cases field <;> simp [Field.position] at outside ⊢
  obtain ⟨size, resolved⟩ := resolve_parse_compressed nonempty compresses
  exact ⟨nonempty, compresses, size, resolved 3 _ rfl⟩

end SourceTrace.SourceMap

import SourceTrace.SourceMap.Resolve

/-!
# Inheritance of source map fields

A source map is decompressed forward by letting every entry overwrite the fields that it defines;
only the texts in force at the wanted entry are read. Resolving goes the other way: it scans back,
keeps the first definition of each field and stops early. `resolve_eq_ok_iff` shows that both find
the same entry, or none.

The two directions meet in `settle`, which says what one field becomes: a scan settles each field by
the definition that it meets first, whatever the other fields do.
-/

namespace SourceTrace.SourceMap

/-- Two steps in a row succeed exactly if each of them does. -/
theorem bind_eq_ok_iff {ε α β : Type} (first : Except ε α) (rest : α → Except ε β)
    (value : β) :
    (first >>= rest) = .ok value ↔
      ∃ middle, first = .ok middle ∧ rest middle = .ok value := by
  cases first with
  | error error => simp [bind, Except.bind]
  | ok middle => simp [bind, Except.bind]

/-- The place of a field in a written entry. -/
def Field.position : Field → Nat
  | .offset => 0
  | .length => 1
  | .fileId => 2
  | .jump => 3
  | .modifiers => 4

/-- Whether a text is a value of a field. -/
def Field.accepts : Field → String → Bool
  | .offset, text | .length, text | .fileId, text => (Text.readSigned? text).isSome
  | .jump, text => (Jump.ofLetter? text).isSome
  | .modifiers, text => (Text.readUnsigned? text).isSome

/-- The text that an entry gives a field; an empty or missing component gives none. -/
def given? (entry : String) (field : Field) : Option String :=
  ((fieldsOf entry)[field.position]?).filter fun text => !text.isEmpty

/-- The text of each field that has one. -/
abbrev Texts := Field → Option String

/-- An entry overwrites the fields that it defines and leaves the others. -/
def Texts.overwrite (texts : Texts) (entry : String) : Texts :=
  fun field => (given? entry field).or (texts field)

/-- The texts in force after entries, from the first to the last. -/
def Texts.inForce (entries : List String) : Texts :=
  entries.foldl Texts.overwrite fun _ => none

/-- The entry that texts spell. Offset, length and file number must be there, and every text that is
there must be a value of its field. -/
def Texts.spelled? (texts : Texts) : Option Entry := do
  let offset ← (texts .offset).bind Text.readSigned?
  let length ← (texts .length).bind Text.readSigned?
  let fileId ← (texts .fileId).bind Text.readSigned?
  let jump ← (texts .jump).mapM Jump.ofLetter?
  let modifiers ← (texts .modifiers).mapM Text.readUnsigned?
  return { offset, length, fileId, jump, modifiers }

/-- Forward decompression: the entry that the texts in force at an instruction spell. -/
def decompressed? (map : SourceMap) (index : Nat) : Option Entry :=
  if index < map.size then (Texts.inForce (map.entries.take (index + 1))).spelled? else none

/-- An empty entry gives no field. -/
theorem given?_empty (field : Field) : given? "" field = none := by
  cases field <;> rfl

/-- What one field becomes: a value that is known stays, and otherwise the text is read if there is
one. -/
def settle {α : Type} (read? : String → Option α) (known : Option α) (text : Option String) :
    Option (Option α) :=
  match known with
  | some value => some (some value)
  | none => text.mapM read?

section Settle

variable {α : Type} {read? : String → Option α} {index : Nat} {field : Field}

@[simp] theorem settle_some (value : α) (text : Option String) :
    settle read? (some value) text = some (some value) := rfl

@[simp] theorem settle_none (known : Option α) : settle read? known none = some known := by
  cases known <;> rfl

/-- A field that was not known takes the value of its text. -/
theorem settle_none_eq_some_iff (text : Option String) (value : α) :
    settle read? none text = some (some value) ↔ text.bind read? = some value := by
  cases text with
  | none => simp
  | some text => simp [settle]

/-- An earlier text counts only where a later one is missing. -/
theorem settle_or (known : Option α) (later earlier : Option String) :
    settle read? known (later.or earlier) =
      (settle read? known later).bind fun next => settle read? next earlier := by
  cases known with
  | some value => rfl
  | none =>
    cases later with
    | none => simp
    | some text => cases read : read? text <;> simp [settle, read]

/-- Filling a field settles it by the component of the entry that is scanned. -/
theorem fill_eq_ok_iff (known next : Option α) (component : Option String) :
    fill read? index field known component = .ok next ↔
      settle read? known (component.filter fun text => !text.isEmpty) = some next := by
  cases known with
  | some value => simp [fill]
  | none =>
    cases component with
    | none => simp [fill]
    | some text =>
      by_cases empty : text.isEmpty = true
      · simp [fill, empty, Option.filter]
      · cases read : read? text <;> simp [fill, settle, empty, read, Option.filter]

end Settle

/-- The definition of a field that a scan meets first. -/
def firstGiven? (entries : List (Nat × String)) (field : Field) : Option String :=
  entries.findSome? fun entry => given? entry.2 field

/-- Without entries no text is given. -/
theorem firstGiven?_nil : firstGiven? [] = fun _ => none := rfl

/-- An entry overwrites what the entries behind it give. -/
theorem firstGiven?_cons (entry : Nat × String) (rest : List (Nat × String)) :
    firstGiven? (entry :: rest) = Texts.overwrite (firstGiven? rest) entry.2 := by
  funext field
  rw [firstGiven?, List.findSome?_cons, Texts.overwrite]
  cases given? entry.2 field <;> rfl

/-- An empty entry overwrites nothing. -/
theorem overwrite_empty (texts : Texts) : texts.overwrite "" = texts := by
  funext field
  rw [Texts.overwrite, given?_empty, Option.none_or]

/-- What the fields of one record become by texts, field by field. -/
structure Known.Settles (known : Known) (texts : Texts) (next : Known) : Prop where
  offset : settle Text.readSigned? known.offset (texts .offset) = some next.offset
  length : settle Text.readSigned? known.length (texts .length) = some next.length
  fileId : settle Text.readSigned? known.fileId (texts .fileId) = some next.fileId
  jump : settle Jump.ofLetter? known.jump (texts .jump) = some next.jump
  modifiers : settle Text.readUnsigned? known.modifiers (texts .modifiers) = some next.modifiers

namespace Known

variable {known next result : Known}

/-- Absorbing an entry settles every field by what the entry gives. -/
theorem absorb_eq_ok_iff (index : Nat) (entry : String) :
    known.absorb index entry = .ok next ↔ known.Settles (given? entry) next := by
  constructor
  · intro absorbed
    simp only [absorb, bind_eq_ok_iff] at absorbed
    obtain ⟨offset, offsetFilled, length, lengthFilled, fileId, fileIdFilled, jump, jumpFilled,
      modifiers, modifiersFilled, made⟩ := absorbed
    cases made
    exact ⟨(fill_eq_ok_iff _ _ _).mp offsetFilled, (fill_eq_ok_iff _ _ _).mp lengthFilled,
      (fill_eq_ok_iff _ _ _).mp fileIdFilled, (fill_eq_ok_iff _ _ _).mp jumpFilled,
      (fill_eq_ok_iff _ _ _).mp modifiersFilled⟩
  · intro settles
    simp only [absorb, bind_eq_ok_iff]
    exact ⟨_, (fill_eq_ok_iff _ _ _).mpr settles.offset, _,
      (fill_eq_ok_iff _ _ _).mpr settles.length, _, (fill_eq_ok_iff _ _ _).mpr settles.fileId, _,
      (fill_eq_ok_iff _ _ _).mpr settles.jump, _,
      (fill_eq_ok_iff _ _ _).mpr settles.modifiers, rfl⟩

/-- Settling by an overwritten text settles by the overwriting entry first. -/
theorem settles_overwrite_iff (texts : Texts) (entry : String) :
    known.Settles (texts.overwrite entry) result ↔
      ∃ next, known.Settles (given? entry) next ∧ next.Settles texts result := by
  constructor
  · rintro ⟨offset, length, fileId, jump, modifiers⟩
    simp only [Texts.overwrite, settle_or, Option.bind_eq_some_iff]
      at offset length fileId jump modifiers
    obtain ⟨nextOffset, offsetLater, offsetEarlier⟩ := offset
    obtain ⟨nextLength, lengthLater, lengthEarlier⟩ := length
    obtain ⟨nextFileId, fileIdLater, fileIdEarlier⟩ := fileId
    obtain ⟨nextJump, jumpLater, jumpEarlier⟩ := jump
    obtain ⟨nextModifiers, modifiersLater, modifiersEarlier⟩ := modifiers
    exact ⟨⟨nextOffset, nextLength, nextFileId, nextJump, nextModifiers⟩,
      ⟨offsetLater, lengthLater, fileIdLater, jumpLater, modifiersLater⟩,
      ⟨offsetEarlier, lengthEarlier, fileIdEarlier, jumpEarlier, modifiersEarlier⟩⟩
  · rintro ⟨next, later, earlier⟩
    constructor <;> simp only [Texts.overwrite, settle_or, Option.bind_eq_some_iff]
    · exact ⟨_, later.offset, earlier.offset⟩
    · exact ⟨_, later.length, earlier.length⟩
    · exact ⟨_, later.fileId, earlier.fileId⟩
    · exact ⟨_, later.jump, earlier.jump⟩
    · exact ⟨_, later.modifiers, earlier.modifiers⟩

/-- Where no text is given, nothing is settled. -/
theorem settles_none_iff : known.Settles (fun _ => none) result ↔ known = result := by
  constructor
  · rintro ⟨offset, length, fileId, jump, modifiers⟩
    simp only [settle_none, Option.some.injEq] at offset length fileId jump modifiers
    cases known
    cases result
    simp_all
  · rintro rfl
    constructor <;> simp

/-- Complete fields are settled, whatever the texts. -/
theorem settles_iff_of_isComplete (texts : Texts) (complete : known.isComplete = true) :
    known.Settles texts result ↔ known = result := by
  obtain ⟨offset, length, fileId, jump, modifiers⟩ := known
  simp only [isComplete, Bool.and_eq_true, Option.isSome_iff_exists] at complete
  obtain ⟨⟨⟨⟨⟨_, rfl⟩, ⟨_, rfl⟩⟩, ⟨_, rfl⟩⟩, ⟨_, rfl⟩⟩, ⟨_, rfl⟩⟩ := complete
  constructor
  · rintro ⟨offset, length, fileId, jump, modifiers⟩
    simp only [settle_some, Option.some.injEq] at offset length fileId jump modifiers
    cases result
    simp_all
  · rintro rfl
    constructor <;> rfl

/-- A scan settles every field by the definition that it meets first. -/
theorem scan_eq_ok_iff (entries : List (Nat × String)) :
    known.scan entries = .ok result ↔ known.Settles (firstGiven? entries) result := by
  -- The scan changes what is known from entry to entry, so the induction is over any known fields.
  induction entries generalizing known with
  | nil =>
    rw [scan, firstGiven?_nil, settles_none_iff, Except.ok.injEq]
  | cons entry rest inductionHypothesis =>
    obtain ⟨index, entry⟩ := entry
    rw [firstGiven?_cons, scan]
    split
    · rename_i empty
      rw [String.isEmpty_iff.mp empty, overwrite_empty]
      exact inductionHypothesis
    · rw [settles_overwrite_iff]
      split
      · rename_i error failed
        simp only [reduceCtorEq, false_iff, not_exists, not_and]
        intro next settles
        rw [← absorb_eq_ok_iff index, failed] at settles
        cases settles
      · rename_i next absorbed
        have unique (other : Known) : known.Settles (given? entry) other ↔ next = other := by
          rw [← absorb_eq_ok_iff index, absorbed, Except.ok.injEq]
        simp only [unique, exists_eq_left']
        -- Stopping early is no loss: complete fields are settled by any texts to come.
        split
        · rename_i complete
          rw [settles_iff_of_isComplete _ complete, Except.ok.injEq]
        · exact inductionHypothesis

/-- An entry is complete exactly if its three numbers are known. -/
theorem finish_eq_ok_iff (index : Nat) (entry : Entry) :
    known.finish index = .ok entry ↔
      known = ⟨some entry.offset, some entry.length, some entry.fileId, entry.jump,
        entry.modifiers⟩ := by
  obtain ⟨offset, length, fileId, jump, modifiers⟩ := known
  obtain ⟨entryOffset, entryLength, entryFileId, entryJump, entryModifiers⟩ := entry
  cases offset <;> cases length <;> cases fileId <;> simp [finish]

end Known

/-- Overwriting entry after entry leaves the definition that comes last. -/
theorem foldl_overwrite (entries : List String) (texts : Texts) (field : Field) :
    entries.foldl Texts.overwrite texts field =
      (entries.reverse.findSome? (given? · field)).or (texts field) := by
  induction entries generalizing texts with
  | nil => simp
  | cons entry rest inductionHypothesis =>
    rw [List.foldl_cons, inductionHypothesis, List.reverse_cons, List.findSome?_append]
    simp [Texts.overwrite, Option.or_assoc]

/-- Going back, a scan meets first the definitions that are in force. -/
theorem firstGiven?_entriesBackFrom (map : SourceMap) (index : Nat) :
    firstGiven? (map.entriesBackFrom index) =
      Texts.inForce (map.entries.take (index + 1)) := by
  funext field
  rw [Texts.inForce, foldl_overwrite, Option.or_none, firstGiven?]
  have entries : (map.entries.take (index + 1)).reverse =
      (map.entriesBackFrom index).map Prod.snd := by
    rw [entriesBackFrom, List.map_reverse, List.map_map]
    exact congrArg List.reverse (List.zipIdx_map_fst 0 _).symm
  rw [entries, List.findSome?_map]
  rfl

/-- Texts spell an entry exactly if they settle all fields to those of the entry. -/
theorem Texts.spelled?_eq_some_iff (texts : Texts) (entry : Entry) :
    texts.spelled? = some entry ↔
      ({} : Known).Settles texts ⟨some entry.offset, some entry.length,
      some entry.fileId, entry.jump, entry.modifiers⟩ := by
  constructor
  · intro spelled
    simp only [Texts.spelled?, Option.bind_eq_bind, Option.bind_eq_some_iff] at spelled
    obtain ⟨offset, readOffset, length, readLength, fileId, readFileId, jump, readJump, modifiers,
      readModifiers, made⟩ := spelled
    cases made
    exact ⟨(settle_none_eq_some_iff _ _).mpr (Option.bind_eq_some_iff.mpr readOffset),
      (settle_none_eq_some_iff _ _).mpr (Option.bind_eq_some_iff.mpr readLength),
      (settle_none_eq_some_iff _ _).mpr (Option.bind_eq_some_iff.mpr readFileId), readJump,
      readModifiers⟩
  · rintro ⟨offset, length, fileId, jump, modifiers⟩
    rw [settle_none_eq_some_iff] at offset length fileId
    simp only [settle] at jump modifiers
    simp [Texts.spelled?, offset, length, fileId, jump, modifiers]

/-- Scanning back finds the entry that forward decompression makes, and fails where that fails. -/
theorem resolve_eq_ok_iff (map : SourceMap) (index : Nat) (entry : Entry) :
    map.resolve index = .ok entry ↔ map.decompressed? index = some entry := by
  rw [resolve, decompressed?]
  by_cases inside : index < map.size
  · rw [if_neg (by omega), if_pos inside, Texts.spelled?_eq_some_iff,
      ← firstGiven?_entriesBackFrom, ← Known.scan_eq_ok_iff]
    split
    · rename_i failed
      simp [failed]
    · rename_i known scanned
      rw [scanned, Known.finish_eq_ok_iff, Except.ok.injEq]
  · rw [if_pos (by omega), if_neg inside]
    simp

end SourceTrace.SourceMap

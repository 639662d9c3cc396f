import SourceTrace.Proofs.SourceMap.Inheritance

/-!
# Definitions in force

Of the texts that the entries of a source map give a field, the one in force at an instruction is
the last up to it. A scan back from the instruction meets this text first, as
`definition?_entriesBackFrom` shows, and what it finds for each field is the value that the text
spells, by `resolve_eq_ok_iff_isResolved`.
-/

namespace SourceTrace.SourceMap

/-- The text that the entry with a number gives a field. -/
def givenAt? (map : SourceMap) (number : Nat) (field : Field) : Option String :=
  map.entries[number]?.bind fun entry => given? entry field

/-- The text that an entry gives a field is in force at an instruction: no later entry up to the
instruction gives the field another one. -/
structure InForce (map : SourceMap) (index : Nat) (field : Field) (number : Nat) (text : String) :
    Prop where
  upTo : number ≤ index
  given : map.givenAt? number field = some text
  last : ∀ later, number < later → later ≤ index → map.givenAt? later field = none

/-- A field has no text in force at an instruction. -/
def Undefined (map : SourceMap) (index : Nat) (field : Field) : Prop :=
  ∀ number text, ¬map.InForce index field number text

/-- The value of a field at an instruction: what the text in force spells, or none if there is no
text. -/
def HasValue {α : Type} (map : SourceMap) (index : Nat) (field : Field)
    (read? : String → Option α) :
    Option α → Prop
  | some value => ∃ number text, map.InForce index field number text ∧ read? text = some value
  | none => map.Undefined index field

/-- Every field of an entry has the value that is in force at an instruction. -/
structure IsResolved (map : SourceMap) (index : Nat) (entry : Entry) : Prop where
  offset : map.HasValue index .offset Text.readSigned? (some entry.offset)
  length : map.HasValue index .length Text.readSigned? (some entry.length)
  fileId : map.HasValue index .fileId Text.readSigned? (some entry.fileId)
  jump : map.HasValue index .jump Jump.ofLetter? entry.jump
  modifiers : map.HasValue index .modifiers Text.readUnsigned? entry.modifiers

section InForce

variable {map : SourceMap} {index : Nat} {field : Field}

/-- At most one definition of a field is in force. -/
theorem InForce.unique {number place : Nat} {text wording : String}
    (first : map.InForce index field number text) (second : map.InForce index field place wording) :
    number = place ∧ text = wording := by
  have notBefore : ¬number < place := fun before => by
    have absent := first.last place before second.upTo
    rw [second.given] at absent
    cases absent
  have notBehind : ¬place < number := fun behind => by
    have absent := second.last number behind first.upTo
    rw [first.given] at absent
    cases absent
  obtain rfl : number = place := by omega
  exact ⟨rfl, Option.some.inj (first.given.symm.trans second.given)⟩

end InForce

/-- The definition of a field that a scan meets first, with the number of its entry. -/
def definition? (entries : List (Nat × String)) (field : Field) : Option (Nat × String) :=
  entries.findSome? fun entry => (given? entry.2 field).map fun text => (entry.1, text)

section Definitions

/-- A field that the first entry gives is defined there. -/
theorem definition?_cons_of_given {entry text : String} {field : Field} (index : Nat)
    (rest : List (Nat × String)) (given : given? entry field = some text) :
    definition? ((index, entry) :: rest) field = some (index, text) := by
  simp [definition?, given]

/-- A field that the first entry leaves open is defined behind it. -/
theorem definition?_cons_of_open {entry : String} {field : Field} (index : Nat)
    (rest : List (Nat × String)) (absent : given? entry field = none) :
    definition? ((index, entry) :: rest) field = definition? rest field := by
  simp [definition?, absent]

/-- The first text that is given for a field is that of its definition. -/
theorem firstGiven?_eq_map_definition? (entries : List (Nat × String)) (field : Field) :
    firstGiven? entries field = (definition? entries field).map Prod.snd := by
  rw [firstGiven?, definition?, List.map_findSome?]
  simp only [Function.comp_def, Option.map_map, Option.map_id']

/-- A definition that a scan meets is in one of its entries. -/
theorem exists_mem_of_definition? {entries : List (Nat × String)} {field : Field} {number : Nat}
    {text : String} (found : definition? entries field = some (number, text)) :
    ∃ entry, (number, entry) ∈ entries ∧ given? entry field = some text := by
  obtain ⟨⟨place, entry⟩, mem, given⟩ := List.exists_of_findSome?_eq_some found
  simp only [Option.map_eq_some_iff, Prod.mk.injEq] at given
  obtain ⟨_, given, rfl, rfl⟩ := given
  exact ⟨entry, mem, given⟩

/-- Going back from an entry meets the entries up to it, each with its number. -/
theorem mem_entriesBackFrom {map : SourceMap} {index number : Nat} {entry : String} :
    (number, entry) ∈ map.entriesBackFrom index ↔
      number ≤ index ∧ map.entries[number]? = some entry := by
  simp only [entriesBackFrom, List.mem_reverse, List.mem_map, Prod.mk.injEq, Prod.exists]
  constructor
  · rintro ⟨text, place, mem, rfl, rfl⟩
    have found := List.mem_zipIdx_iff_getElem?.mp mem
    rw [List.getElem?_take] at found
    split at found
    · exact ⟨by omega, found⟩
    · cases found
  · rintro ⟨bounded, found⟩
    refine ⟨entry, number, List.mem_zipIdx_iff_getElem?.mpr ?_, rfl, rfl⟩
    rw [List.getElem?_take, if_pos (by omega), found]

/-- The entries back from an instruction have descending numbers. -/
theorem entriesBackFrom_descending (map : SourceMap) (index : Nat) :
    (map.entriesBackFrom index).Pairwise fun first second => second.1 < first.1 := by
  rw [entriesBackFrom, List.pairwise_reverse, List.pairwise_map, ← List.pairwise_map,
    List.zipIdx_map_snd]
  exact List.pairwise_lt_range'

/-- Going back from an instruction meets first the definition in force there. -/
theorem definition?_entriesBackFrom (map : SourceMap) (index : Nat) (field : Field) (number : Nat)
    (text : String) :
    definition? (map.entriesBackFrom index) field = some (number, text) ↔
      map.InForce index field number text := by
  have descending := map.entriesBackFrom_descending index
  constructor
  · intro found
    obtain ⟨before, ⟨place, entry⟩, behind, split, given, clear⟩ :=
      List.findSome?_eq_some_iff.mp found
    simp only [Option.map_eq_some_iff, Prod.mk.injEq] at given
    obtain ⟨_, given, rfl, rfl⟩ := given
    have mem : (place, entry) ∈ map.entriesBackFrom index := by simp [split]
    obtain ⟨upTo, present⟩ := mem_entriesBackFrom.mp mem
    refine ⟨upTo, by simp [givenAt?, present, given], ?_⟩
    intro later after bounded
    cases other : map.entries[later]? with
    | none => simp [givenAt?, other]
    | some wording =>
      -- A later entry is met before, where no entry gives the field a text.
      have met := mem_entriesBackFrom.mpr ⟨bounded, other⟩
      rw [split, List.mem_append, List.mem_cons] at met
      rw [split, List.pairwise_append, List.pairwise_cons] at descending
      rcases met with earlier | same | remaining
      · simpa [givenAt?, other] using clear _ earlier
      · cases same
        omega
      · have below := descending.2.1.1 _ remaining
        omega
  · rintro ⟨upTo, given, last⟩
    obtain ⟨entry, present, given⟩ := Option.bind_eq_some_iff.mp given
    obtain ⟨before, behind, split⟩ :=
      List.append_of_mem (mem_entriesBackFrom.mpr ⟨upTo, present⟩)
    refine List.findSome?_eq_some_iff.mpr ⟨before, _, behind, split, by simp [given], ?_⟩
    rintro ⟨later, wording⟩ mem
    rw [split, List.pairwise_append] at descending
    have after := descending.2.2 _ mem _ List.mem_cons_self
    obtain ⟨bounded, other⟩ := mem_entriesBackFrom.mp
      (show (later, wording) ∈ map.entriesBackFrom index by simp [split, mem])
    have absent := last later after bounded
    rw [givenAt?, other] at absent
    simpa using absent

end Definitions

section Values

variable {map : SourceMap} {index : Nat} {α : Type}

/-- A field is known afterwards exactly if it was or there is a text. -/
theorem isSome_of_settle {read? : String → Option α} {known next : Option α}
    {given : Option String} (settled : settle read? known given = some next) :
    next.isSome = (known.isSome || given.isSome) := by
  cases known with
  | some value =>
    cases settled
    rfl
  | none =>
    cases given with
    | none =>
      cases settled
      rfl
    | some text =>
      cases read : read? text with
      | none => simp [settle, read] at settled
      | some value =>
        simp only [settle, Option.mapM_some, read] at settled
        cases settled
        rfl

/-- The first text that is given for a field is the one in force. -/
theorem firstGiven?_eq_some_iff (field : Field) (text : String) :
    firstGiven? (map.entriesBackFrom index) field = some text ↔
      ∃ number, map.InForce index field number text := by
  simp [firstGiven?_eq_map_definition?, definition?_entriesBackFrom]

/-- No text is given for a field exactly if it is undefined. -/
theorem firstGiven?_eq_none_iff (field : Field) :
    firstGiven? (map.entriesBackFrom index) field = none ↔ map.Undefined index field := by
  rw [Option.eq_none_iff_forall_ne_some, Undefined]
  simp only [ne_eq, firstGiven?_eq_some_iff, not_exists]
  exact forall_comm

/-- Settling a field by the definition that is met first gives it its value. -/
theorem settle_firstGiven?_iff (field : Field) (read? : String → Option α) (value : Option α) :
    settle read? none (firstGiven? (map.entriesBackFrom index) field) = some value ↔
      map.HasValue index field read? value := by
  cases value with
  | some value =>
    rw [settle_none_eq_some_iff, Option.bind_eq_some_iff]
    simp only [firstGiven?_eq_some_iff, HasValue]
    constructor
    · rintro ⟨text, ⟨number, inForce⟩, read⟩
      exact ⟨number, text, inForce, read⟩
    · rintro ⟨number, text, inForce, read⟩
      exact ⟨text, ⟨number, inForce⟩, read⟩
  | none =>
    rw [HasValue, ← firstGiven?_eq_none_iff]
    constructor
    · intro settled
      have same := isSome_of_settle settled
      simpa using same.symm
    · intro absent
      rw [absent, settle_none]

/-- Resolving gives an entry exactly if every field of it has the value in force. -/
theorem resolve_eq_ok_iff_isResolved (inside : index < map.size) (entry : Entry) :
    map.resolve index = .ok entry ↔ map.IsResolved index entry := by
  rw [resolve_eq_ok_iff, decompressed?, if_pos inside, Texts.spelled?_eq_some_iff,
    ← firstGiven?_entriesBackFrom]
  constructor
  · rintro ⟨offset, length, fileId, jump, modifiers⟩
    exact ⟨(settle_firstGiven?_iff _ _ _).mp offset, (settle_firstGiven?_iff _ _ _).mp length,
      (settle_firstGiven?_iff _ _ _).mp fileId, (settle_firstGiven?_iff _ _ _).mp jump,
      (settle_firstGiven?_iff _ _ _).mp modifiers⟩
  · rintro ⟨offset, length, fileId, jump, modifiers⟩
    exact ⟨(settle_firstGiven?_iff _ _ _).mpr offset, (settle_firstGiven?_iff _ _ _).mpr length,
      (settle_firstGiven?_iff _ _ _).mpr fileId, (settle_firstGiven?_iff _ _ _).mpr jump,
      (settle_firstGiven?_iff _ _ _).mpr modifiers⟩

end Values

end SourceTrace.SourceMap

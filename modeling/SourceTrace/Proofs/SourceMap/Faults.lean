import SourceTrace.Proofs.SourceMap.Definitions

/-!
# Faults in source maps

A fault is a text in force at an instruction that is no value of its field.
`resolve_by_definitions_in_force` says what resolving answers in terms of the texts in force alone:
the fault that comes first on the way back, else the first mandatory field without a text, else the
values that the texts spell. So a text that is shadowed, or that stands behind the fifth field, has
no influence, and neither has the place where the scan stops.

The scan settles fields from entry to entry. What it reports is found by following it one entry back
(`Known.absorb_error`) and then along all entries (`Known.scan_error`): a field that is still open
has been given no text yet, and a field that is not open was given a good one.
-/

namespace SourceTrace.SourceMap

/-- A text in force at an instruction is no value of its field. -/
structure IsFault (map : SourceMap) (index : Nat) (field : Field) (number : Nat) (text : String) :
    Prop where
  inForce : map.InForce index field number text
  refused : field.accepts text = false

/-- The fault that is met first on the way back from an instruction: none is in a later entry, and
none in an earlier field of the same entry. -/
structure IsFirstFault (map : SourceMap) (index : Nat) (field : Field) (number : Nat)
    (text : String) : Prop where
  isFault : map.IsFault index field number text
  first : ∀ other place wording, map.IsFault index other place wording →
    place < number ∨ place = number ∧ field.position ≤ other.position

/-- A field is the first of offset, length and file number that is undefined at an instruction. -/
structure IsFirstMissing (map : SourceMap) (index : Nat) (field : Field) : Prop where
  mandatory : field ∈ [Field.offset, Field.length, Field.fileId]
  missing : map.Undefined index field
  first : ∀ other, other.position < field.position → ¬map.Undefined index other

/-- Fields have different positions. -/
theorem Field.position_injective {field other : Field} (same : field.position = other.position) :
    field = other := by
  cases field <;> cases other <;> first | rfl | cases same

/-- There is one first fault. -/
theorem IsFirstFault.unique {map : SourceMap} {index number place : Nat} {field other : Field}
    {text wording : String} (left : map.IsFirstFault index field number text)
    (right : map.IsFirstFault index other place wording) :
    number = place ∧ field = other ∧ text = wording := by
  have rightBehind := left.first other place wording right.isFault
  have leftBehind := right.first field number text left.isFault
  obtain rfl : number = place := by omega
  obtain rfl : field = other := Field.position_injective (by omega)
  exact ⟨rfl, rfl, (left.isFault.inForce.unique right.isFault.inForce).2⟩

/-- Whether a field was found. -/
def Known.has (known : Known) : Field → Bool
  | .offset => known.offset.isSome
  | .length => known.length.isSome
  | .fileId => known.fileId.isSome
  | .jump => known.jump.isSome
  | .modifiers => known.modifiers.isSome

/-- At the start no field is known. -/
theorem Known.has_empty (field : Field) : ({} : Known).has field = false := by
  cases field <;> rfl

section Fields

variable {α : Type} {read? : String → Option α} {known next : Option α} {text : String}

/-- A field that was not known can be settled only by a text that can be read. -/
theorem isSome_read?_of_settle (settled : settle read? known (some text) = some next)
    (lacking : known.isSome = false) : (read? text).isSome = true := by
  cases known with
  | some value => cases lacking
  | none =>
    cases read : read? text with
    | none => simp [settle, read] at settled
    | some value => rfl

/-- A field cannot be filled only if it is not known and its component is there and cannot be
read. -/
theorem fill_error {index : Nat} {field : Field} {component : Option String} {error : LookupError}
    (failed : fill read? index field known component = .error error) :
    known.isSome = false ∧ ∃ text, (component.filter fun text => !text.isEmpty) = some text ∧
      read? text = none ∧ error = .invalidSourceMapEntry index field text := by
  simp only [fill] at failed
  split at failed
  · cases failed
  · cases failed
  · rename_i text
    split at failed
    · cases failed
    · rename_i present
      split at failed
      · cases failed
      · rename_i unread
        cases failed
        exact ⟨rfl, text, by simp [present, Option.filter], unread, rfl⟩

/-- A field that was filled had no component that cannot be read. -/
theorem not_refused_of_fill {index : Nat} {field : Field} {component : Option String}
    (filled : fill read? index field known component = .ok next) (lacking : known.isSome = false)
    (given : (component.filter fun text => !text.isEmpty) = some text)
    (refused : (read? text).isSome = false) : False := by
  rw [fill_eq_ok_iff, given] at filled
  rw [isSome_read?_of_settle filled lacking] at refused
  cases refused

end Fields

/-- Two steps in a row fail exactly if the first of them does, or the second behind it. -/
theorem bind_eq_error_iff {ε α β : Type} (first : Except ε α) (rest : α → Except ε β)
    (error : ε) :
    (first >>= rest) = .error error ↔
      first = .error error ∨ ∃ middle, first = .ok middle ∧ rest middle = .error error := by
  cases first with
  | error error => simp [bind, Except.bind]
  | ok middle => simp [bind, Except.bind]

namespace Known

variable {known next : Known} {texts : Texts}

/-- A field is known if it was known before or its text was given. -/
theorem Settles.has_eq (settles : known.Settles texts next) (field : Field) :
    next.has field = (known.has field || (texts field).isSome) := by
  cases field with
  | offset => exact isSome_of_settle settles.offset
  | length => exact isSome_of_settle settles.length
  | fileId => exact isSome_of_settle settles.fileId
  | jump => exact isSome_of_settle settles.jump
  | modifiers => exact isSome_of_settle settles.modifiers

/-- A text that settles a field is a value of it. -/
theorem Settles.accepts (settles : known.Settles texts next) {field : Field} {text : String}
    (lacking : known.has field = false) (given : texts field = some text) :
    field.accepts text = true := by
  obtain ⟨offset, length, fileId, jump, modifiers⟩ := settles
  cases field with
  | offset => exact isSome_read?_of_settle (given ▸ offset) lacking
  | length => exact isSome_read?_of_settle (given ▸ length) lacking
  | fileId => exact isSome_read?_of_settle (given ▸ fileId) lacking
  | jump => exact isSome_read?_of_settle (given ▸ jump) lacking
  | modifiers => exact isSome_read?_of_settle (given ▸ modifiers) lacking

/-- An entry cannot be absorbed only if it gives a field that is still open a text that is no value
of the field, and the first such field is reported. -/
theorem absorb_error {index : Nat} {entry : String} {error : LookupError}
    (failed : known.absorb index entry = .error error) :
    ∃ field text, known.has field = false ∧ given? entry field = some text ∧
      field.accepts text = false ∧ error = .invalidSourceMapEntry index field text ∧
      ∀ other wording, known.has other = false → given? entry other = some wording →
        other.accepts wording = false → field.position ≤ other.position := by
  simp only [absorb, bind_eq_error_iff] at failed
  -- The five fields are read in turn, and the first bad one ends the reading.
  rcases failed with failed | ⟨_, offset, failed | ⟨_, length, failed | ⟨_, fileId, failed |
    ⟨_, jump, failed | ⟨_, -, impossible⟩⟩⟩⟩⟩
  · obtain ⟨lacking, text, given, unread, rfl⟩ := fill_error failed
    refine ⟨.offset, text, lacking, given, by simp [Field.accepts, unread], rfl, ?_⟩
    intro other wording otherLacking otherGiven refused
    exact Nat.zero_le _
  · obtain ⟨lacking, text, given, unread, rfl⟩ := fill_error failed
    refine ⟨.length, text, lacking, given, by simp [Field.accepts, unread], rfl, ?_⟩
    intro other wording otherLacking otherGiven refused
    cases other with
    | offset => exact (not_refused_of_fill offset otherLacking otherGiven refused).elim
    | _ => decide
  · obtain ⟨lacking, text, given, unread, rfl⟩ := fill_error failed
    refine ⟨.fileId, text, lacking, given, by simp [Field.accepts, unread], rfl, ?_⟩
    intro other wording otherLacking otherGiven refused
    cases other with
    | offset => exact (not_refused_of_fill offset otherLacking otherGiven refused).elim
    | length => exact (not_refused_of_fill length otherLacking otherGiven refused).elim
    | _ => decide
  · obtain ⟨lacking, text, given, unread, rfl⟩ := fill_error failed
    refine ⟨.jump, text, lacking, given, by simp [Field.accepts, unread], rfl, ?_⟩
    intro other wording otherLacking otherGiven refused
    cases other with
    | offset => exact (not_refused_of_fill offset otherLacking otherGiven refused).elim
    | length => exact (not_refused_of_fill length otherLacking otherGiven refused).elim
    | fileId => exact (not_refused_of_fill fileId otherLacking otherGiven refused).elim
    | _ => decide
  · obtain ⟨lacking, text, given, unread, rfl⟩ := fill_error failed
    refine ⟨.modifiers, text, lacking, given, by simp [Field.accepts, unread], rfl, ?_⟩
    intro other wording otherLacking otherGiven refused
    cases other with
    | offset => exact (not_refused_of_fill offset otherLacking otherGiven refused).elim
    | length => exact (not_refused_of_fill length otherLacking otherGiven refused).elim
    | fileId => exact (not_refused_of_fill fileId otherLacking otherGiven refused).elim
    | jump => exact (not_refused_of_fill jump otherLacking otherGiven refused).elim
    | modifiers => decide
  · cases impossible

/-- The bad text that a scan meets first, among the fields that are still open. -/
structure MeetsFirst (known : Known) (entries : List (Nat × String)) (field : Field) (number : Nat)
    (text : String) : Prop where
  lacking : known.has field = false
  met : definition? entries field = some (number, text)
  refused : field.accepts text = false
  first : ∀ other place wording, known.has other = false →
    definition? entries other = some (place, wording) → other.accepts wording = false →
      place < number ∨ place = number ∧ field.position ≤ other.position

/-- What a scan meets first after an entry that could be absorbed it meets first with the entry
too. -/
theorem MeetsFirst.cons {entry text : String} {rest : List (Nat × String)} {field : Field}
    {number : Nat} (index : Nat) (settles : known.Settles (given? entry) next)
    (meets : next.MeetsFirst rest field number text) :
    known.MeetsFirst ((index, entry) :: rest) field number text := by
  have still (other : Field) : next.has other = false ↔
      known.has other = false ∧ given? entry other = none := by
    rw [settles.has_eq, Bool.or_eq_false_iff, Option.isSome_eq_false_iff, Option.isNone_iff_eq_none]
  obtain ⟨lacking, absent⟩ := (still field).mp meets.lacking
  refine ⟨lacking, (definition?_cons_of_open index rest absent).trans meets.met, meets.refused,
    ?_⟩
  intro other place wording otherLacking found refused
  cases given : given? entry other with
  | none =>
    rw [definition?_cons_of_open index rest given] at found
    exact meets.first other place wording
      ((still other).mpr ⟨otherLacking, given⟩) found refused
  | some text =>
    rw [definition?_cons_of_given index rest given] at found
    cases found
    rw [settles.accepts otherLacking given] at refused
    cases refused

/-- A scan fails only on the bad text that it meets first. -/
theorem scan_error {entries : List (Nat × String)} {error : LookupError}
    (descending : entries.Pairwise fun first second => second.1 < first.1)
    (failed : known.scan entries = .error error) :
    ∃ field number text, error = .invalidSourceMapEntry number field text ∧
      known.MeetsFirst entries field number text := by
  induction entries generalizing known with
  | nil => cases failed
  | cons head rest inductionHypothesis =>
    obtain ⟨index, entry⟩ := head
    obtain ⟨greatest, restDescending⟩ := List.pairwise_cons.mp descending
    have later {next : Known} (settles : known.Settles (given? entry) next)
        (failed : next.scan rest = .error error) :
        ∃ field number text, error = .invalidSourceMapEntry number field text ∧
          known.MeetsFirst ((index, entry) :: rest) field number text := by
      obtain ⟨field, number, text, reported, meets⟩ := inductionHypothesis restDescending failed
      exact ⟨field, number, text, reported, meets.cons index settles⟩
    rw [scan] at failed
    split at failed
    · rename_i empty
      refine later ?_ failed
      rw [String.isEmpty_iff.mp empty, funext given?_empty, settles_none_iff]
    · split at failed
      · rename_i absorbed
        cases failed
        obtain ⟨field, text, lacking, given, refused, reported, first⟩ := absorb_error absorbed
        refine ⟨field, index, text, reported, lacking,
          definition?_cons_of_given index rest given, refused, ?_⟩
        intro other place wording otherLacking found otherRefused
        -- The entry itself was just absorbed up to the fault; all other entries have smaller
        -- numbers.
        cases otherGiven : given? entry other with
        | none =>
          rw [definition?_cons_of_open index rest otherGiven] at found
          obtain ⟨_, mem, -⟩ := exists_mem_of_definition? found
          exact Or.inl (greatest _ mem)
        | some text =>
          rw [definition?_cons_of_given index rest otherGiven] at found
          cases found
          exact Or.inr ⟨rfl, first other wording otherLacking otherGiven otherRefused⟩
      · rename_i absorbed
        split at failed
        · cases failed
        · exact later ((absorb_eq_ok_iff index entry).mp absorbed) failed

/-- The known fields make no entry exactly if a mandatory one is missing, and the first is
reported. -/
theorem finish_eq_error_iff (index : Nat) (error : LookupError) :
    known.finish index = .error error ↔
      ∃ field ∈ [Field.offset, Field.length, Field.fileId],
        error = .incompleteSourceMapEntry index field ∧ known.has field = false ∧
          ∀ other, other.position < field.position → known.has other = true := by
  obtain ⟨offset, length, fileId, jump, modifiers⟩ := known
  constructor
  · intro failed
    simp only [finish] at failed
    split at failed
    · cases failed
      exact ⟨.offset, by simp, rfl, rfl, fun other before => absurd before (Nat.not_lt_zero _)⟩
    · cases failed
      refine ⟨.length, by simp, rfl, rfl, ?_⟩
      intro other before
      cases other with
      | offset => rfl
      | _ => exact absurd before (by decide)
    · cases failed
      refine ⟨.fileId, by simp, rfl, rfl, ?_⟩
      intro other before
      cases other with
      | offset => rfl
      | length => rfl
      | _ => exact absurd before (by decide)
    · cases failed
  · rintro ⟨field, mandatory, rfl, lacking, first⟩
    simp only [List.mem_cons, List.not_mem_nil, or_false] at mandatory
    rcases mandatory with rfl | rfl | rfl
    · obtain rfl : offset = none := by simpa [has] using lacking
      rfl
    · obtain ⟨_, rfl⟩ : ∃ value, offset = some value :=
        Option.isSome_iff_exists.mp (first .offset (by decide))
      obtain rfl : length = none := by simpa [has] using lacking
      rfl
    · obtain ⟨_, rfl⟩ : ∃ value, offset = some value :=
        Option.isSome_iff_exists.mp (first .offset (by decide))
      obtain ⟨_, rfl⟩ : ∃ value, length = some value :=
        Option.isSome_iff_exists.mp (first .length (by decide))
      obtain rfl : fileId = none := by simpa [has] using lacking
      rfl

/-- Scanning is absorbing every entry: skipping the empty ones and stopping early change nothing. -/
theorem scan_eq_foldlM (entries : List (Nat × String)) :
    known.scan entries =
      entries.foldlM (fun known entry => known.absorb entry.1 entry.2) known := by
  have settled {known : Known} (complete : known.isComplete = true) (rest : List (Nat × String)) :
      rest.foldlM (fun known entry => known.absorb entry.1 entry.2) known = .ok known := by
    induction rest with
    | nil => rfl
    | cons entry rest inductionHypothesis =>
      rw [List.foldlM_cons, (absorb_eq_ok_iff _ _).mpr
        ((settles_iff_of_isComplete _ complete).mpr rfl)]
      exact inductionHypothesis
  induction entries generalizing known with
  | nil => rfl
  | cons head rest inductionHypothesis =>
    obtain ⟨index, entry⟩ := head
    rw [scan, List.foldlM_cons]
    split
    · rename_i empty
      have kept : known.absorb index entry = .ok known := by
        rw [absorb_eq_ok_iff, String.isEmpty_iff.mp empty, funext given?_empty, settles_none_iff]
      rw [kept]
      exact inductionHypothesis
    · split
      · rename_i absorbed
        rw [absorbed]
        rfl
      · rename_i next absorbed
        rw [absorbed]
        split
        · rename_i complete
          exact (settled complete rest).symm
        · exact inductionHypothesis

end Known

section Resolving

variable {map : SourceMap} {index : Nat}

/-- A scan that fails reports the first fault on the way back. -/
theorem isFirstFault_of_scan_error {error : LookupError}
    (failed : Known.scan {} (map.entriesBackFrom index) = .error error) :
    ∃ field number text, error = .invalidSourceMapEntry number field text ∧
      map.IsFirstFault index field number text := by
  obtain ⟨field, number, text, reported, -, met, refused, first⟩ :=
    Known.scan_error (map.entriesBackFrom_descending index) failed
  refine ⟨field, number, text, reported,
    ⟨(map.definition?_entriesBackFrom index field number text).mp met, refused⟩, ?_⟩
  rintro other place wording ⟨inForce, otherRefused⟩
  exact first other place wording (Known.has_empty other)
    ((map.definition?_entriesBackFrom index other place wording).mpr inForce) otherRefused

/-- A scan that ends well has met no fault. -/
theorem not_isFault_of_scan_ok {known : Known}
    (scanned : Known.scan {} (map.entriesBackFrom index) = .ok known) (field : Field) (number : Nat)
    (text : String) : ¬map.IsFault index field number text := by
  rintro ⟨inForce, refused⟩
  have settles := (Known.scan_eq_ok_iff _).mp scanned
  have accepted := settles.accepts (Known.has_empty field)
    ((firstGiven?_eq_some_iff field text).mpr ⟨number, inForce⟩)
  rw [accepted] at refused
  cases refused

/-- A scan that ends well leaves exactly the undefined fields open. -/
theorem has_eq_false_iff_of_scan_ok {known : Known}
    (scanned : Known.scan {} (map.entriesBackFrom index) = .ok known) (field : Field) :
    known.has field = false ↔ map.Undefined index field := by
  have settles := (Known.scan_eq_ok_iff _).mp scanned
  rw [settles.has_eq, Known.has_empty, Bool.false_or, Option.isSome_eq_false_iff,
    Option.isNone_iff_eq_none, firstGiven?_eq_none_iff]

/-- The two ways of resolving: the first fault is reported, or there is none and the fields that are
not undefined are put together. -/
theorem resolve_cases (inside : index < map.size) :
    (∃ field number text,
      map.resolve index = .error (.invalidSourceMapEntry number field text) ∧
      map.IsFirstFault index field number text) ∨
    ∃ known : Known, map.resolve index = known.finish index ∧
      (∀ field number text, ¬map.IsFault index field number text) ∧
      ∀ field, known.has field = false ↔ map.Undefined index field := by
  rw [resolve, if_neg (Nat.not_le.mpr inside)]
  cases scanned : Known.scan {} (map.entriesBackFrom index) with
  | error error =>
    obtain ⟨field, number, text, rfl, firstFault⟩ := isFirstFault_of_scan_error scanned
    exact Or.inl ⟨field, number, text, rfl, firstFault⟩
  | ok known =>
    exact Or.inr ⟨known, rfl, not_isFault_of_scan_ok scanned,
      has_eq_false_iff_of_scan_ok scanned⟩

/-- Resolving reports an invalid entry exactly if it is the first fault on the way back. -/
theorem resolve_eq_invalid_iff (inside : index < map.size) (number : Nat) (field : Field)
    (text : String) :
    map.resolve index = .error (.invalidSourceMapEntry number field text) ↔
      map.IsFirstFault index field number text := by
  rcases resolve_cases inside with
    ⟨badField, badNumber, badText, reported, firstFault⟩ | ⟨known, finished, faultless, -⟩
  · rw [reported]
    constructor
    · intro same
      cases same
      exact firstFault
    · intro isFirst
      obtain ⟨rfl, rfl, rfl⟩ := firstFault.unique isFirst
      rfl
  · rw [finished, Known.finish_eq_error_iff]
    constructor
    · rintro ⟨_, _, impossible, _⟩
      cases impossible
    · intro isFirst
      exact absurd isFirst.isFault (faultless field number text)

/-- Resolving reports an incomplete entry exactly if there is no fault and a mandatory field is
missing, and names the first such field. -/
theorem resolve_eq_incomplete_iff (inside : index < map.size) (number : Nat) (field : Field) :
    map.resolve index = .error (.incompleteSourceMapEntry number field) ↔
      number = index ∧ (∀ other place text, ¬map.IsFault index other place text) ∧
        map.IsFirstMissing index field := by
  rcases resolve_cases inside with
    ⟨badField, badNumber, badText, reported, firstFault⟩ |
    ⟨known, finished, faultless, isMissing⟩
  · rw [reported]
    constructor
    · intro impossible
      cases impossible
    · rintro ⟨-, faultless, -⟩
      exact absurd firstFault.isFault (faultless badField badNumber badText)
  · have isDefined (other : Field) : known.has other = true ↔ ¬map.Undefined index other := by
      rw [← isMissing, Bool.not_eq_false]
    rw [finished, Known.finish_eq_error_iff]
    simp only [isMissing, isDefined]
    constructor
    · rintro ⟨other, mandatory, same, missing, first⟩
      cases same
      exact ⟨rfl, faultless, mandatory, missing, first⟩
    · rintro ⟨rfl, -, mandatory, missing, first⟩
      exact ⟨field, mandatory, rfl, missing, first⟩

/-- Why an entry cannot be resolved: there is none, a text that some entry up to it gives a field is
no value of the field, or a mandatory field was never given. -/
theorem resolve_error_cases {error : LookupError} (failed : map.resolve index = .error error) :
    (map.size ≤ index ∧ error = .sourceMapIndexOutOfRange index map.size) ∨
      (∃ number field text, number ≤ index ∧
        (map.entries[number]?.bind fun entry => given? entry field) = some text ∧
        field.accepts text = false ∧ error = .invalidSourceMapEntry number field text) ∨
      ∃ field, error = .incompleteSourceMapEntry index field := by
  rcases Nat.lt_or_ge index map.size with inside | outside
  · rcases resolve_cases inside with
      ⟨field, number, text, reported, firstFault⟩ | ⟨known, finished, -⟩
    · rw [reported] at failed
      cases failed
      obtain ⟨inForce, refused⟩ := firstFault.isFault
      exact Or.inr (Or.inl ⟨number, field, text, inForce.upTo, inForce.given, refused, rfl⟩)
    · rw [finished, Known.finish_eq_error_iff] at failed
      obtain ⟨field, -, rfl, -⟩ := failed
      exact Or.inr (Or.inr ⟨field, rfl⟩)
  · rw [resolve, if_pos outside] at failed
    cases failed
    exact Or.inl ⟨outside, rfl⟩

/-- Maps with the same definitions in force at an instruction resolve it alike. -/
theorem resolve_eq_of_inForce_iff {other : SourceMap} (inside : index < map.size)
    (otherInside : index < other.size)
    (same : ∀ field number text,
      map.InForce index field number text ↔ other.InForce index field number text) :
    other.resolve index = map.resolve index := by
  have sameFault (field : Field) (number : Nat) (text : String) :
      map.IsFault index field number text ↔ other.IsFault index field number text := by
    constructor
    · rintro ⟨inForce, refused⟩
      exact ⟨(same field number text).mp inForce, refused⟩
    · rintro ⟨inForce, refused⟩
      exact ⟨(same field number text).mpr inForce, refused⟩
  have sameUndefined (field : Field) :
      map.Undefined index field ↔ other.Undefined index field := by
    simp only [Undefined, same]
  have sameValue {α : Type} {field : Field} {read? : String → Option α} {value : Option α}
      (has : map.HasValue index field read? value) : other.HasValue index field read? value := by
    cases value with
    | none => exact (sameUndefined field).mp has
    | some value =>
      obtain ⟨number, text, inForce, read⟩ := has
      exact ⟨number, text, (same field number text).mp inForce, read⟩
  cases resolved : map.resolve index with
  | ok entry =>
    obtain ⟨offset, length, fileId, jump, modifiers⟩ :=
      (resolve_eq_ok_iff_isResolved inside entry).mp resolved
    exact (resolve_eq_ok_iff_isResolved otherInside entry).mpr
      ⟨sameValue offset, sameValue length, sameValue fileId, sameValue jump,
        sameValue modifiers⟩
  | error error =>
    rcases resolve_error_cases resolved with
      ⟨outside, -⟩ | ⟨number, field, text, -, -, -, rfl⟩ | ⟨field, rfl⟩
    · omega
    · obtain ⟨isFault, first⟩ := (resolve_eq_invalid_iff inside number field text).mp resolved
      simp only [sameFault] at isFault first
      exact (resolve_eq_invalid_iff otherInside number field text).mpr ⟨isFault, first⟩
    · obtain ⟨-, faultless, mandatory, missing, first⟩ :=
        (resolve_eq_incomplete_iff inside index field).mp resolved
      simp only [sameFault] at faultless
      simp only [sameUndefined] at missing first
      exact (resolve_eq_incomplete_iff otherInside index field).mpr
        ⟨rfl, faultless, mandatory, missing, first⟩

/-- An invalid entry is reported whenever there is a fault. -/
theorem exists_resolve_eq_invalid_iff (inside : index < map.size) :
    (∃ number field text,
      map.resolve index = .error (.invalidSourceMapEntry number field text)) ↔
      ∃ field number text, map.IsFault index field number text := by
  constructor
  · rintro ⟨number, field, text, failed⟩
    exact ⟨field, number, text,
      ((resolve_eq_invalid_iff inside number field text).mp failed).isFault⟩
  · rintro ⟨field, number, text, isFault⟩
    rcases resolve_cases inside with
      ⟨badField, badNumber, badText, reported, -⟩ | ⟨known, -, faultless, -⟩
    · exact ⟨badNumber, badField, badText, reported⟩
    · exact absurd isFault (faultless field number text)

/-- An entry is resolved whenever there is no fault and no mandatory field is missing. -/
theorem exists_resolve_eq_ok_iff (inside : index < map.size) :
    (∃ entry, map.resolve index = .ok entry) ↔
      (∀ field number text, ¬map.IsFault index field number text) ∧
        ∀ field ∈ [Field.offset, Field.length, Field.fileId], ¬map.Undefined index field := by
  constructor
  · rintro ⟨entry, resolved⟩
    have values := (resolve_eq_ok_iff_isResolved inside entry).mp resolved
    constructor
    · intro field number text isFault
      obtain ⟨_, _, _, failed⟩ :=
        (exists_resolve_eq_invalid_iff inside).mpr ⟨field, number, text, isFault⟩
      rw [resolved] at failed
      cases failed
    · intro field mandatory undefined
      simp only [List.mem_cons, List.not_mem_nil, or_false] at mandatory
      rcases mandatory with rfl | rfl | rfl
      · obtain ⟨number, text, inForce, -⟩ := values.offset
        exact undefined number text inForce
      · obtain ⟨number, text, inForce, -⟩ := values.length
        exact undefined number text inForce
      · obtain ⟨number, text, inForce, -⟩ := values.fileId
        exact undefined number text inForce
  · rintro ⟨faultless, defined⟩
    cases resolved : map.resolve index with
    | ok entry => exact ⟨entry, rfl⟩
    | error error =>
      rcases resolve_error_cases resolved with
        ⟨outside, -⟩ | ⟨number, field, text, -, -, -, rfl⟩ | ⟨field, rfl⟩
      · omega
      · have reported := (resolve_eq_invalid_iff inside number field text).mp resolved
        exact absurd reported.isFault (faultless field number text)
      · obtain ⟨-, -, reported⟩ := (resolve_eq_incomplete_iff inside index field).mp resolved
        exact absurd reported.missing (defined field reported.mandatory)

end Resolving

/-- What resolving answers, by the definitions in force at the instruction. It reports an invalid
entry exactly if there is a fault, and then the first one on the way back; otherwise an incomplete
entry exactly if offset, length or file number is missing, and then the first of them; otherwise it
gives the entry whose fields have the values in force. So maps with the same definitions in force
are resolved alike, whatever else their entries say, and resolving is the same as absorbing every
entry from the instruction back to the first. -/
theorem resolve_by_definitions_in_force (map : SourceMap) (index : Nat)
    (inside : index < map.size) :
    (∀ number field text,
      map.resolve index = .error (.invalidSourceMapEntry number field text) ↔
      map.IsFirstFault index field number text) ∧
    ((∃ number field text,
      map.resolve index = .error (.invalidSourceMapEntry number field text)) ↔
      ∃ field number text, map.IsFault index field number text) ∧
    (∀ number field, map.resolve index = .error (.incompleteSourceMapEntry number field) ↔
      number = index ∧ (∀ other place text, ¬map.IsFault index other place text) ∧
        map.IsFirstMissing index field) ∧
    (∀ entry, map.resolve index = .ok entry ↔ map.IsResolved index entry) ∧
    ((∃ entry, map.resolve index = .ok entry) ↔
      (∀ field number text, ¬map.IsFault index field number text) ∧
        ∀ field ∈ [Field.offset, Field.length, Field.fileId], ¬map.Undefined index field) ∧
    (∀ other : SourceMap, index < other.size →
      (∀ field number text,
        map.InForce index field number text ↔ other.InForce index field number text) →
      other.resolve index = map.resolve index) ∧
    map.resolve index =
      ((map.entriesBackFrom index).foldlM
        (fun (known : Known) entry => known.absorb entry.1 entry.2) {}).bind (·.finish index) := by
  refine ⟨resolve_eq_invalid_iff inside, exists_resolve_eq_invalid_iff inside,
    resolve_eq_incomplete_iff inside, resolve_eq_ok_iff_isResolved inside,
    exists_resolve_eq_ok_iff inside, ?_, ?_⟩
  · intro other otherInside same
    exact resolve_eq_of_inForce_iff inside otherInside same
  · rw [← Known.scan_eq_foldlM, resolve, if_neg (Nat.not_le.mpr inside)]
    cases Known.scan {} (map.entriesBackFrom index) <;> rfl

/-- Bad texts that are shadowed and a sixth field do not matter: the map is resolved like one
without them. One instruction earlier the bad length is not shadowed yet, and it is reported
although the bad offset comes first in the map. -/
theorem resolve_by_definitions_in_force_shadowed :
    let map : SourceMap := ⟨["a:2:0", "1:b:0:-:9:x", "", ":5"]⟩
    let plain : SourceMap := ⟨["", "1::0:-:9", "", ":5"]⟩
    3 < map.size ∧ 3 < plain.size ∧
      (∀ field number text,
        map.InForce 3 field number text ↔ plain.InForce 3 field number text) ∧
      plain.resolve 3 = map.resolve 3 ∧
      map.resolve 3 = .ok ⟨1, 5, 0, some .regular, some 9⟩ ∧
      map.resolve 2 = .error (.invalidSourceMapEntry 1 .length "b") := by
  intro map plain
  have inside : 3 < map.size := by decide
  have plainInside : 3 < plain.size := by decide
  have same : ∀ field number text,
      map.InForce 3 field number text ↔ plain.InForce 3 field number text := by
    intro field number text
    have equal : definition? (map.entriesBackFrom 3) field =
        definition? (plain.entriesBackFrom 3) field := by
      cases field <;> rfl
    rw [← definition?_entriesBackFrom, ← definition?_entriesBackFrom, equal]
  obtain ⟨-, -, -, -, -, alike, -⟩ := resolve_by_definitions_in_force map 3 inside
  exact ⟨inside, plainInside, same, alike plain plainInside same, rfl, rfl⟩

end SourceTrace.SourceMap

import SourceTrace.Proofs.Ast.Visited
import SourceTrace.Proofs.Lookup.Traces
import SourceTrace.Proofs.SourceMap.Faults
import SourceTrace.Proofs.SourceMap.Ranges
import SourceTrace.Proofs.Text.Numerals

/-!
# Recorded stages

A lookup only adds stages to its journal, and its outcome tells which: a location comes with all
stages, an error with those up to the point where the lookup stopped. `LookupError.StopsAt` is the
table of these points. An invalid source map entry occurs at two of them: where a text is no value
of its field, no entry could be resolved; where a value is negative, the entry was resolved before.

`Program.FailsAfter` says for each stage when it is the last one of a failed lookup, from what the
parts of the lookup find, and `Program.stages_explain` what every lookup adds to every journal.
-/

namespace SourceTrace

/-- The stage at which a lookup with an error stopped. -/
def LookupError.StopsAt : LookupError → Stage → Prop
  | .invalidAddress _, .start => True
  | .addressOutOfRange _ _, .start => True
  | .addressNotFound _ _, .start => True
  | .sourceMapIndexOutOfRange _ _, .bytecodeResolved => True
  | .incompleteSourceMapEntry _ _, .bytecodeResolved => True
  | .invalidSourceMapEntry _ field text, .bytecodeResolved => field.accepts text = false
  | .invalidSourceMapEntry _ field text, .sourceMapResolved =>
    (field = .offset ∨ field = .length) ∧
      ∃ value : Int64, value.toInt < 0 ∧ text = Text.signedDecimal value.toInt
  | .noAssociatedSource _, .sourceMapResolved => True
  | .noContainingNode _ _ _, .sourceMapResolved => True
  | .missingLiteralSource _, .nodeResolved => True
  | _, _ => False

/-- A field that holds a number accepts every number of 64 bits. -/
theorem accepts_signedDecimal {field : SourceMap.Field} (value : Int64)
    (numeric : field = .offset ∨ field = .length) :
    field.accepts (Text.signedDecimal value.toInt) = true := by
  rcases numeric with rfl | rfl <;>
    simp [SourceMap.Field.accepts, Text.readSigned?_signedDecimal]

/-- An error tells at which stage the lookup stopped. -/
theorem LookupError.StopsAt.unique {error : LookupError} {first second : Stage}
    (stops : error.StopsAt first) (also : error.StopsAt second) : first = second := by
  -- Only an invalid entry can stop a lookup at two stages, and its text tells them apart.
  have apart {field : SourceMap.Field} {text : String} (refused : field.accepts text = false)
      (negative : (field = .offset ∨ field = .length) ∧
        ∃ value : Int64, value.toInt < 0 ∧ text = Text.signedDecimal value.toInt) : False := by
    obtain ⟨numeric, value, -, rfl⟩ := negative
    rw [accepts_signedDecimal value numeric] at refused
    cases refused
  cases error with
  | invalidSourceMapEntry index field text =>
    cases first <;> simp only [StopsAt] at stops
    · cases second <;> simp only [StopsAt] at also
      · rfl
      · exact (apart stops also).elim
    · cases second <;> simp only [StopsAt] at also
      · exact (apart also stops).elim
      · rfl
  | _ =>
    cases first <;> simp only [StopsAt] at stops
    all_goals cases second <;> simp only [StopsAt] at also
    all_goals rfl

namespace Program

/-- The stages of a lookup up to the node. -/
def stagesToNode : List Stage :=
  [.start, .bytecodeResolved, .sourceMapResolved, .nodeResolved]

/-- How the lookup of an address failed after some stages, and why. -/
structure FailsAfter (program : Program) (address : String) (error : LookupError)
    (reached : List Stage) : Prop where
  /-- Every lookup passes the start first. -/
  started : reached.head? = some .start
  /-- Stages are passed in their order. -/
  ordered : reached <+: stagesToNode
  /-- Nothing but the start is passed exactly if the address is at fault. -/
  start_iff : reached = [.start] ↔ error.StopsAt .start
  /-- The error tells the stage that was reached last, and the other way round. -/
  last_iff : ∀ stage, reached.getLast? = some stage ↔ error.StopsAt stage
  /-- An address is invalid exactly if it cannot be read. -/
  invalid_iff : ∀ text, error = .invalidAddress text ↔
    text = address ∧ Text.readHexNumber? address = none
  /-- An address is out of range exactly if it is at or behind the padded end. -/
  outOfRange_iff : ∀ pc padded, error = .addressOutOfRange pc padded ↔
    Text.readHexNumber? address = some pc ∧ padded = program.bytecode.paddedLength ∧
      program.bytecode.paddedLength ≤ pc
  /-- An address is not found exactly if it is in the padding. -/
  notFound_iff : ∀ pc length, error = .addressNotFound pc length ↔
    Text.readHexNumber? address = some pc ∧ length = program.bytecode.length ∧
      program.bytecode.length ≤ pc ∧ pc < program.bytecode.paddedLength
  /-- The lookup stops after the bytecode exactly if the entry cannot be resolved, for any
  reason. -/
  unresolved_iff : reached.getLast? = some .bytecodeResolved ↔
    ∃ pc index reason, Text.readHexNumber? address = some pc ∧
      program.bytecode.instructionIndex pc = .ok index ∧ pc < program.bytecode.length ∧
      program.sourceMap.resolve index = .error reason
  /-- The reason for which an entry cannot be resolved is what the lookup fails with. -/
  unresolved : ∀ pc index reason, Text.readHexNumber? address = some pc →
    program.bytecode.instructionIndex pc = .ok index → pc < program.bytecode.length →
    program.sourceMap.resolve index = .error reason → error = reason
  /-- The lookup stops after the source map exactly if a resolved entry leads to no node. -/
  unreached_iff : reached.getLast? = some .sourceMapResolved ↔
    ∃ pc index entry, Text.readHexNumber? address = some pc ∧ program.Enters pc index entry ∧
      ¬∃ range node, program.Reaches pc index entry range node
  /-- A resolved entry is invalid only if its offset or length in a real file is negative. -/
  negative : reached.getLast? = some .sourceMapResolved → ∀ number field text,
    error = .invalidSourceMapEntry number field text →
      ∃ pc entry, Text.readHexNumber? address = some pc ∧ program.Enters pc number entry ∧
        entry.IsNegative number error
  /-- The lookup stops after the node exactly if there is no text for it. -/
  textless_iff : reached.getLast? = some .nodeResolved ↔
    ∃ pc index entry range node, Text.readHexNumber? address = some pc ∧
      program.Reaches pc index entry range node ∧ program.cut? range = none ∧
      node.relevantCode = ""

variable {program : Program} {pc : Nat} {stages : List Stage} {error : LookupError}

/-- What resolving reports stops a lookup after the bytecode. -/
theorem stopsAt_of_resolve_error {map : SourceMap} {index : Nat}
    (failed : map.resolve index = .error error) : error.StopsAt .bytecodeResolved := by
  rcases SourceMap.resolve_error_cases failed with
    ⟨-, rfl⟩ | ⟨number, field, text, -, -, refused, rfl⟩ | ⟨field, rfl⟩
  · trivial
  · exact refused
  · trivial

/-- A negative offset or length stops a lookup after the source map. -/
theorem stopsAt_of_isNegative {entry : SourceMap.Entry} {index : Nat}
    (negative : entry.IsNegative index error) : error.StopsAt .sourceMapResolved := by
  obtain ⟨-, field, value, chosen, below, rfl⟩ := negative
  exact ⟨chosen.imp And.left And.left, value, below, rfl⟩

/-- A failed lookup passed its stages in order and stopped where its error says. -/
theorem Traces.stops (traces : program.Traces pc stages (.error error)) :
    .start :: stages <+: stagesToNode ∧
      ∃ last, (Stage.start :: stages).getLast? = some last ∧ error.StopsAt last := by
  cases traces with
  | outside failed =>
    obtain ⟨-, rfl⟩ := (program.bytecode.instructionIndex_eq_error_iff pc error).mp failed
    exact ⟨by decide, .start, rfl, trivial⟩
  | padding owned absent => exact ⟨by decide, .start, rfl, trivial⟩
  | unresolved owned present failed =>
    exact ⟨by decide, .bytecodeResolved, rfl, stopsAt_of_resolve_error failed⟩
  | negative enters failed =>
    have negative := SourceMap.Entry.isNegative_of_range_error failed
    exact ⟨by decide, .sourceMapResolved, rfl, stopsAt_of_isNegative negative⟩
  | generated enters ranged => exact ⟨by decide, .sourceMapResolved, rfl, trivial⟩
  | uncovered enters ranged failed =>
    obtain ⟨-, rfl⟩ := (Ast.smallestContaining_eq_error_iff _ _ _).mp failed
    exact ⟨by decide, .sourceMapResolved, rfl, trivial⟩
  | missing reaches uncut empty => exact ⟨by decide, .nodeResolved, rfl, trivial⟩

/-- A successful lookup passed all stages. -/
theorem Traces.stages_of_ok {location : Location}
    (traces : program.Traces pc stages (.ok location)) :
    stages = [.bytecodeResolved, .sourceMapResolved, .nodeResolved,
      if location.reconstructed then .reconstructed else .literalExtracted, .done] := by
  cases traces <;> rfl

/-- A lookup whose error stops it at the start passed no other stage. -/
theorem Traces.stages_of_start (traces : program.Traces pc stages (.error error))
    (start : error.StopsAt .start) : stages = [] := by
  obtain ⟨-, last, ends, stops⟩ := traces.stops
  obtain rfl : last = .start := stops.unique start
  cases traces with
  | outside failed => rfl
  | padding owned absent => rfl
  | _ => simp at ends

/-- Ways that are open to one failing lookup end with one stage. -/
theorem Traces.last_eq {others : List Stage} {reason : LookupError}
    (traces : program.Traces pc stages (.error error))
    (also : program.Traces pc others (.error reason)) :
    (Stage.start :: stages).getLast? = (Stage.start :: others).getLast? := by
  obtain rfl : reason = error := Except.error.inj (traces.outcome_unique also)
  obtain ⟨-, last, ends, stops⟩ := traces.stops
  obtain ⟨-, otherLast, otherEnds, otherStops⟩ := also.stops
  rw [ends, otherEnds, stops.unique otherStops]

/-- The lookup of a program counter knows of no invalid address. -/
theorem Traces.error_ne_invalidAddress (traces : program.Traces pc stages (.error error))
    (text : String) : error ≠ .invalidAddress text := by
  rintro rfl
  obtain rfl := traces.stages_of_start trivial
  cases traces with
  | outside failed =>
    obtain ⟨-, other⟩ := (program.bytecode.instructionIndex_eq_error_iff pc _).mp failed
    cases other

/-- A program counter is out of range exactly if it is at or behind the padded end. -/
theorem Traces.outOfRange_iff (traces : program.Traces pc stages (.error error))
    (number padded : Nat) :
    error = .addressOutOfRange number padded ↔
      number = pc ∧ padded = program.bytecode.paddedLength ∧
        program.bytecode.paddedLength ≤ pc := by
  constructor
  · rintro rfl
    obtain rfl := traces.stages_of_start trivial
    cases traces with
    | outside failed =>
      obtain ⟨outside, same⟩ := (program.bytecode.instructionIndex_eq_error_iff pc _).mp failed
      cases same
      exact ⟨rfl, rfl, outside⟩
  · rintro ⟨rfl, rfl, outside⟩
    have failed := (program.bytecode.instructionIndex_eq_error_iff number _).mpr ⟨outside, rfl⟩
    exact (Except.error.inj (traces.outcome_unique (.outside failed))).symm

/-- A program counter is not found exactly if it is in the padding. -/
theorem Traces.notFound_iff (traces : program.Traces pc stages (.error error))
    (number length : Nat) :
    error = .addressNotFound number length ↔
      number = pc ∧ length = program.bytecode.length ∧ program.bytecode.length ≤ pc ∧
        pc < program.bytecode.paddedLength := by
  constructor
  · rintro rfl
    obtain rfl := traces.stages_of_start trivial
    cases traces with
    | outside failed =>
      obtain ⟨-, other⟩ := (program.bytecode.instructionIndex_eq_error_iff pc _).mp failed
      cases other
    | padding owned absent =>
      refine ⟨rfl, rfl, absent, Nat.lt_of_not_ge ?_⟩
      intro outside
      rw [(program.bytecode.instructionIndex_eq_error_iff pc _).mpr ⟨outside, rfl⟩] at owned
      cases owned
  · rintro ⟨rfl, rfl, absent, inside⟩
    cases found : program.bytecode.instructionIndex number with
    | error reason =>
      have outside := ((program.bytecode.instructionIndex_eq_error_iff number _).mp found).1
      exact absurd outside (Nat.not_le_of_gt inside)
    | ok index => exact (Except.error.inj (traces.outcome_unique (.padding found absent))).symm

/-- A lookup stops after the bytecode exactly if the entry cannot be resolved. -/
theorem Traces.unresolved_iff (traces : program.Traces pc stages (.error error)) :
    (Stage.start :: stages).getLast? = some .bytecodeResolved ↔
      ∃ index reason, program.bytecode.instructionIndex pc = .ok index ∧
        pc < program.bytecode.length ∧ program.sourceMap.resolve index = .error reason := by
  constructor
  · intro last
    cases traces with
    | unresolved owned present failed => exact ⟨_, _, owned, present, failed⟩
    | _ => simp at last
  · rintro ⟨index, reason, owned, present, failed⟩
    exact traces.last_eq (.unresolved owned present failed)

/-- An entry that leads to no node stops a lookup after the source map. -/
theorem Enters.exists_traces_of_unreached {index : Nat} {entry : SourceMap.Entry}
    (enters : program.Enters pc index entry)
    (unreached : ¬∃ range node, program.Reaches pc index entry range node) :
    ∃ reason, program.Traces pc [.bytecodeResolved, .sourceMapResolved] (.error reason) := by
  cases ranged : entry.range index with
  | error reason => exact ⟨reason, .negative enters ranged⟩
  | ok range? =>
    cases range? with
    | none => exact ⟨_, .generated enters ranged⟩
    | some range =>
      cases covered : Ast.smallestContaining program.tree range with
      | error reason => exact ⟨reason, .uncovered enters ranged covered⟩
      | ok node => exact absurd ⟨range, node, enters, ranged, covered⟩ unreached

/-- A lookup stops after the source map exactly if a resolved entry leads to no node. -/
theorem Traces.unreached_iff (traces : program.Traces pc stages (.error error)) :
    (Stage.start :: stages).getLast? = some .sourceMapResolved ↔
      ∃ index entry, program.Enters pc index entry ∧
        ¬∃ range node, program.Reaches pc index entry range node := by
  constructor
  · intro last
    cases traces with
    | negative enters failed =>
      refine ⟨_, _, enters, ?_⟩
      rintro ⟨range, node, -, ranged, -⟩
      rw [failed] at ranged
      cases ranged
    | generated enters unranged =>
      refine ⟨_, _, enters, ?_⟩
      rintro ⟨range, node, -, ranged, -⟩
      rw [unranged] at ranged
      cases ranged
    | uncovered enters ranged failed =>
      refine ⟨_, _, enters, ?_⟩
      rintro ⟨other, node, -, otherRanged, covered⟩
      rw [ranged] at otherRanged
      cases otherRanged
      rw [failed] at covered
      cases covered
    | _ => simp at last
  · rintro ⟨index, entry, enters, unreached⟩
    obtain ⟨reason, also⟩ := enters.exists_traces_of_unreached unreached
    exact traces.last_eq also

/-- A lookup stops after the node exactly if there is no text for it. -/
theorem Traces.textless_iff (traces : program.Traces pc stages (.error error)) :
    (Stage.start :: stages).getLast? = some .nodeResolved ↔
      ∃ index entry range node, program.Reaches pc index entry range node ∧
        program.cut? range = none ∧ node.relevantCode = "" := by
  constructor
  · intro last
    cases traces with
    | missing reaches uncut empty => exact ⟨_, _, _, _, reaches, uncut, empty⟩
    | _ => simp at last
  · rintro ⟨index, entry, range, node, reaches, uncut, empty⟩
    exact traces.last_eq (.missing reaches uncut empty)

/-- A lookup that stops after the source map with an invalid entry met a negative value. -/
theorem Traces.negative_of_last {number : Nat} {field : SourceMap.Field} {text : String}
    (traces : program.Traces pc stages (.error (.invalidSourceMapEntry number field text)))
    (last : (Stage.start :: stages).getLast? = some .sourceMapResolved) :
    ∃ entry, program.Enters pc number entry ∧
      entry.IsNegative number (.invalidSourceMapEntry number field text) := by
  cases traces with
  | negative enters failed =>
    have negative := SourceMap.Entry.isNegative_of_range_error failed
    obtain ⟨real, which, value, chosen, below, same⟩ := negative
    cases same
    exact ⟨_, enters, real, _, value, chosen, below, rfl⟩
  | uncovered enters ranged failed =>
    obtain ⟨-, other⟩ := (Ast.smallestContaining_eq_error_iff _ _ _).mp failed
    cases other
  | _ => simp at last

/-- Where an error stops a lookup at the last stage, it stops it nowhere else. -/
theorem last_iff_stopsAt {reached : List Stage} {last : Stage}
    (ends : reached.getLast? = some last) (stops : error.StopsAt last) (stage : Stage) :
    reached.getLast? = some stage ↔ error.StopsAt stage := by
  rw [ends, Option.some.injEq]
  constructor
  · rintro rfl
    exact stops
  · exact stops.unique

/-- A failed lookup of a program counter gives the reasons of its failure. -/
theorem Traces.failsAfter {address : String} (read : Text.readHexNumber? address = some pc)
    (traces : program.Traces pc stages (.error error)) :
    program.FailsAfter address error (.start :: stages) := by
  obtain ⟨ordered, last, ends, stops⟩ := traces.stops
  have last_iff := last_iff_stopsAt ends stops
  have unique {other : Nat} (alsoRead : Text.readHexNumber? address = some other) : other = pc :=
    Option.some.inj (alsoRead.symm.trans read)
  constructor
  case started => rfl
  case ordered => exact ordered
  case start_iff =>
    constructor
    · intro alone
      rw [← last_iff, alone]
      rfl
    · intro start
      rw [traces.stages_of_start start]
  case last_iff => exact last_iff
  case invalid_iff =>
    intro text
    constructor
    · exact fun invalid => (traces.error_ne_invalidAddress text invalid).elim
    · rintro ⟨-, unread⟩
      rw [read] at unread
      cases unread
  case outOfRange_iff =>
    intro number padded
    rw [traces.outOfRange_iff]
    constructor
    · rintro ⟨rfl, bound⟩
      exact ⟨read, bound⟩
    · rintro ⟨alsoRead, bound⟩
      obtain rfl := unique alsoRead
      exact ⟨rfl, bound⟩
  case notFound_iff =>
    intro number length
    rw [traces.notFound_iff]
    constructor
    · rintro ⟨rfl, bounds⟩
      exact ⟨read, bounds⟩
    · rintro ⟨alsoRead, bounds⟩
      obtain rfl := unique alsoRead
      exact ⟨rfl, bounds⟩
  case unresolved_iff =>
    rw [traces.unresolved_iff]
    constructor
    · rintro ⟨index, reason, found⟩
      exact ⟨pc, index, reason, read, found⟩
    · rintro ⟨other, index, reason, alsoRead, found⟩
      obtain rfl := unique alsoRead
      exact ⟨index, reason, found⟩
  case unresolved =>
    intro other index reason alsoRead owned present failed
    obtain rfl := unique alsoRead
    exact (Except.error.inj (traces.outcome_unique (.unresolved owned present failed))).symm
  case unreached_iff =>
    rw [traces.unreached_iff]
    constructor
    · rintro ⟨index, entry, found⟩
      exact ⟨pc, index, entry, read, found⟩
    · rintro ⟨other, index, entry, alsoRead, found⟩
      obtain rfl := unique alsoRead
      exact ⟨index, entry, found⟩
  case negative =>
    rintro atSourceMap number field text rfl
    obtain ⟨entry, enters, negative⟩ := traces.negative_of_last atSourceMap
    exact ⟨pc, entry, read, enters, negative⟩
  case textless_iff =>
    rw [traces.textless_iff]
    constructor
    · rintro ⟨index, entry, range, node, found⟩
      exact ⟨pc, index, entry, range, node, read, found⟩
    · rintro ⟨other, index, entry, range, node, alsoRead, found⟩
      obtain rfl := unique alsoRead
      exact ⟨index, entry, range, node, found⟩

/-- An address that cannot be read fails at the start. -/
theorem failsAfter_invalidAddress {program : Program} {address : String}
    (unread : Text.readHexNumber? address = none) :
    program.FailsAfter address (.invalidAddress address) [.start] := by
  -- All that is said about a program counter is void, because there is none.
  have nothing {pc : Nat} (read : Text.readHexNumber? address = some pc) : False := by
    rw [unread] at read
    cases read
  constructor
  case started => rfl
  case ordered => decide
  case start_iff => exact ⟨fun _ => trivial, fun _ => rfl⟩
  case last_iff => exact last_iff_stopsAt rfl trivial
  case invalid_iff =>
    intro text
    rw [LookupError.invalidAddress.injEq, eq_comm, and_iff_left unread]
  case outOfRange_iff =>
    intro pc padded
    constructor
    · intro impossible
      cases impossible
    · rintro ⟨read, -⟩
      exact (nothing read).elim
  case notFound_iff =>
    intro pc length
    constructor
    · intro impossible
      cases impossible
    · rintro ⟨read, -⟩
      exact (nothing read).elim
  case unresolved_iff =>
    constructor
    · intro impossible
      cases impossible
    · rintro ⟨pc, index, reason, read, -⟩
      exact (nothing read).elim
  case unresolved =>
    intro pc index reason read
    exact (nothing read).elim
  case unreached_iff =>
    constructor
    · intro impossible
      cases impossible
    · rintro ⟨pc, index, entry, read, -⟩
      exact (nothing read).elim
  case negative =>
    intro impossible
    cases impossible
  case textless_iff =>
    constructor
    · intro impossible
      cases impossible
    · rintro ⟨pc, index, entry, range, node, read, -⟩
      exact (nothing read).elim

/-- The stages of the lookup of an address that can be read are the start, those of its program
counter, and the failure if there is one. -/
theorem stages_traceAddress_of_read {program : Program} {address : String}
    (read : Text.readHexNumber? address = some pc) :
    (program.traceAddress address).1.map Step.stage =
      .start :: (program.tracePc pc).1.map Step.stage ++
        match (program.tracePc pc).2 with
        | .error _ => [.failed]
        | .ok _ => [] := by
  simp only [traceAddress, read]
  cases (program.tracePc pc).2 <;> simp [failure]

/-- A lookup with a journal records all its steps in it and has the outcome of the lookup. -/
theorem explain_eq (program : Program) (address : String) (journal : Journal) :
    program.explain address journal =
      (journal.recordAll (program.traceAddress address).1, program.locateAddress address) := by
  rw [explain, locateAddress]

/-- Looking up an address is looking up the program counter that it reads as. -/
theorem locateAddress_of_read {program : Program} {address : String}
    (read : Text.readHexNumber? address = some pc) :
    program.locateAddress address = program.locate pc := by
  simp only [locateAddress, traceAddress, read, locate]

/-- The lookup of an address in a journal finds what the lookup of the address finds. It only adds
stages to the journal, and its outcome tells which. -/
theorem stages_explain (program : Program) (address : String) (journal : Journal) :
    (program.explain address journal).2 = program.locateAddress address ∧
    ∃ added, (program.explain address journal).1.stages = journal.stages ++ added ∧
      match (program.explain address journal).2 with
      | .ok location =>
        (∃ pc, Text.readHexNumber? address = some pc ∧ program.locate pc = .ok location) ∧
          added = [.start, .bytecodeResolved, .sourceMapResolved, .nodeResolved,
            if location.reconstructed then .reconstructed else .literalExtracted, .done]
      | .error error => ∃ reached, added = reached ++ [.failed] ∧
          program.FailsAfter address error reached := by
  simp only [explain_eq, true_and]
  refine ⟨(program.traceAddress address).1.map Step.stage, journal.stages_recordAll _, ?_⟩
  cases read : Text.readHexNumber? address with
  | none =>
    simp only [locateAddress, traceAddress, read]
    exact ⟨[.start], rfl, failsAfter_invalidAddress read⟩
  | some pc =>
    have traces := program.traces_tracePc pc
    rw [stages_traceAddress_of_read read, locateAddress_of_read read, locate]
    cases found : (program.tracePc pc).2 with
    | ok location =>
      rw [found] at traces
      exact ⟨⟨pc, rfl, found⟩, by simp [traces.stages_of_ok]⟩
    | error error =>
      rw [found] at traces
      exact ⟨_, rfl, traces.failsAfter read⟩

end Program

end SourceTrace

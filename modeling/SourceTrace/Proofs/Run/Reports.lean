import SourceTrace.Proofs.Json.Reading
import SourceTrace.Proofs.Lookup.Traces
import SourceTrace.Report

/-!
# Reports as documents

The document of a report stands on one line, whatever code and address it holds, and is read back
from it. All its numbers are integers. Those of a lookup have 64 bits, the line of the code aside,
which is as large as the text of the file makes it.

`Report.ofJson?` reads what a document tells about an address: the location with all its parts, or
the kind and the wording of the error. It accepts just the members that belong to a report, in their
order, and `Report.ofJson?_toJson` shows that it gives back every report.
-/

namespace SourceTrace

section Readers

namespace Json

/-- The values of an object that has just these keys, in this order. -/
def fields? (keys : List String) : Json → Option (List Json)
  | .obj members => if members.map Prod.fst = keys then some (members.map Prod.snd) else none
  | _ => none

/-- The value of an integer that is not negative. -/
def nat? : Json → Option Nat
  | .num (.int value) => value.toNat?
  | _ => none

/-- The value of an integer that fits into an unsigned 64 bit word. -/
def uint64? (value : Json) : Option UInt64 :=
  value.nat?.bind fun number =>
    if number < UInt64.size then some (UInt64.ofNat number) else none

/-- A value that may be missing, for which `null` stands then. -/
def optional? {α : Type} (read : Json → Option α) : Json → Option (Option α)
  | .null => some none
  | value => (read value).map some

@[simp] theorem nat?_ofNat (value : Nat) : (Json.ofNat value).nat? = some value :=
  rfl

@[simp] theorem uint64?_ofNat_toNat (value : UInt64) :
    (Json.ofNat value.toNat).uint64? = some value := by
  simp [uint64?, value.toNat_lt_size]

@[simp] theorem int64?_num_toInt (value : Int64) :
    (Json.num (.int value.toInt)).int64? = some value := by
  have low := Int64.le_toInt value
  have high := Int64.toInt_lt value
  rw [int64?, if_pos (by simp only [Text.halfWord]; omega), Int64.ofInt_toInt]

end Json

/-- Reads a source map entry. -/
def SourceMap.Entry.ofJson? (document : Json) : Option SourceMap.Entry :=
  match document.fields? ["offset", "length", "file_id", "jump", "modifiers"] with
  | some [offset, length, fileId, jump, modifiers] => do
    let offset ← offset.int64?
    let length ← length.int64?
    let fileId ← fileId.int64?
    let jump ← jump.optional? fun letter => letter.text?.bind Jump.ofLetter?
    let modifiers ← modifiers.optional? Json.uint64?
    return ⟨offset, length, fileId, jump, modifiers⟩
  | _ => none

/-- Reads a location. -/
def Location.ofJson? (document : Json) : Option Location :=
  match document.fields?
    ["file", "code", "line", "pc", "instruction_index", "entry", "reconstructed"] with
  | some [file, code, line, pc, index, entry, reconstructed] => do
    let file ← file.text?
    let code ← code.text?
    let line ← line.nat?
    let pc ← pc.nat?
    let index ← index.nat?
    let entry ← SourceMap.Entry.ofJson? entry
    let reconstructed ← reconstructed.bool?
    return ⟨file, code, line, pc, index, entry, reconstructed⟩
  | _ => none

/-- Reads what a report tells: the address, and the location or the kind and the wording of the
error. -/
def Report.ofJson? (document : Json) : Option (String × Except (String × String) Location) :=
  match document.fields? ["address", "result"], document.fields? ["address", "error"] with
  | some [address, result], _ => do
    let address ← address.text?
    let location ← Location.ofJson? result
    return (address, .ok location)
  | _, some [address, error] =>
    match error.fields? ["kind", "message"] with
    | some [kind, message] => do
      let address ← address.text?
      let kind ← kind.text?
      let message ← message.text?
      return (address, .error (kind, message))
    | _ => none
  | _, _ => none

/-- A source map entry is read back from its document. -/
theorem SourceMap.Entry.ofJson?_toJson (entry : SourceMap.Entry) :
    SourceMap.Entry.ofJson? entry.toJson = some entry := by
  obtain ⟨offset, length, fileId, jump, modifiers⟩ := entry
  have jumpRead : ((jump.map fun jump => Json.str jump.letter).getD .null).optional?
      (fun letter => letter.text?.bind Jump.ofLetter?) = some jump := by
    cases jump with
    | none => rfl
    | some jump => simp [Json.optional?, Json.text?, Jump.ofLetter?_letter]
  have modifiersRead : ((modifiers.map fun depth => Json.ofNat depth.toNat).getD .null).optional?
      Json.uint64? = some modifiers := by
    cases modifiers with
    | none => rfl
    | some depth =>
      have read := Json.uint64?_ofNat_toNat depth
      simp only [Json.ofNat] at read
      simp [Json.optional?, Json.ofNat, read]
  simp [ofJson?, toJson, Json.fields?, jumpRead, modifiersRead]

/-- A location is read back from its document. -/
theorem Location.ofJson?_toJson (location : Location) :
    Location.ofJson? location.toJson = some location := by
  simp [ofJson?, toJson, Json.fields?, Json.text?, Json.bool?,
    SourceMap.Entry.ofJson?_toJson]

/-- A report is read back from its document: the address, and the location or the kind and the
wording of the error. -/
theorem Report.ofJson?_toJson (report : Report) :
    Report.ofJson? report.toJson = some (report.address,
      report.outcome.mapError fun error => (error.kind, error.message)) := by
  obtain ⟨address, outcome⟩ := report
  cases outcome with
  | ok location =>
    simp [ofJson?, toJson, Json.fields?, Json.text?, Location.ofJson?_toJson, Except.mapError]
  | error error =>
    simp [ofJson?, toJson, Json.fields?, Json.text?, Except.mapError]

end Readers

section Numbers

variable {test : Json.Number → Bool}

/-- A test that passes all words passes all numbers of a source map entry. -/
theorem SourceMap.Entry.allNumbers_toJson
    (signed : ∀ value : Int64, test (.int value.toInt) = true)
    (unsigned : ∀ value : UInt64, test (.int value.toNat) = true) (entry : SourceMap.Entry) :
    entry.toJson.allNumbers test = true := by
  have jump : (entry.jump.map fun jump => Json.str jump.letter).getD .null |>.allNumbers test := by
    cases entry.jump <;> rfl
  have modifiers :
      (entry.modifiers.map fun depth => Json.ofNat depth.toNat).getD .null |>.allNumbers test := by
    cases entry.modifiers with
    | none => rfl
    | some depth => exact unsigned depth
  simp only [toJson, Json.allNumbers, Json.allNumbersOfMembers, signed, jump, modifiers,
    Bool.and_true]

/-- A test that passes all words passes all numbers of a report if it passes those that a location
has of its own. -/
theorem Report.allNumbers_toJson (signed : ∀ value : Int64, test (.int value.toInt) = true)
    (unsigned : ∀ value : UInt64, test (.int value.toNat) = true) {report : Report}
    (own : ∀ location, report.outcome = .ok location → test (.int location.line) = true ∧
      test (.int location.pc) = true ∧ test (.int location.instructionIndex) = true) :
    report.toJson.allNumbers test = true := by
  obtain ⟨address, outcome⟩ := report
  cases outcome with
  | error fault => rfl
  | ok location =>
    obtain ⟨line, pc, index⟩ := own location rfl
    have entry := location.entry.allNumbers_toJson signed unsigned
    simp only [toJson, Location.toJson, Json.ofNat, Json.allNumbers, Json.allNumbersOfMembers, line,
      pc, index, entry, Bool.and_true]

end Numbers

namespace Report

variable (report : Report)

/-- The document of a report stands on one line. -/
theorem newline_not_mem_render_toJson : '\n' ∉ report.toJson.render.toList :=
  Json.newline_not_mem_render _
    (allNumbers_toJson (fun _ => rfl) (fun _ => rfl) fun _ _ => ⟨rfl, rfl, rfl⟩)

/-- No object in the document of a report has a key twice, and the document is not nested deeply. -/
theorem toJson_spec : report.toJson.hasDistinctKeys = true ∧ report.toJson.depth ≤ 3 := by
  obtain ⟨address, outcome⟩ := report
  cases outcome with
  | error fault => exact ⟨rfl, Nat.le_of_ble_eq_true rfl⟩
  | ok location =>
    obtain ⟨file, code, line, pc, index, ⟨offset, length, fileId, jump, modifiers⟩, made⟩ :=
      location
    cases jump <;> cases modifiers <;> exact ⟨rfl, Nat.le_of_ble_eq_true rfl⟩

variable {report}

/-- The document of a report is read back from its line. -/
theorem parse?_render_toJson
    (bounded : ∀ location, report.outcome = .ok location → location.line < UInt64.size ∧
      location.pc < UInt64.size ∧ location.instructionIndex < UInt64.size) :
    Json.parse? report.toJson.render = some report.toJson := by
  have natural : ∀ value < UInt64.size, Json.Number.isWord (.int value) = true := by
    intro value small
    simp only [Json.Number.isWord, decide_eq_true_eq]
    omega
  have signed : ∀ value : Int64, Json.Number.isWord (.int value.toInt) = true := by
    intro value
    have low := Int64.le_toInt value
    have high := Int64.toInt_lt value
    simp only [Json.Number.isWord, decide_eq_true_eq, Text.halfWord, UInt64.size]
    omega
  have words : report.toJson.allNumbers Json.Number.isWord = true := by
    apply allNumbers_toJson signed fun value => natural _ value.toNat_lt_size
    intro location found
    obtain ⟨line, pc, index⟩ := bounded location found
    exact ⟨natural _ line, natural _ pc, natural _ index⟩
  obtain ⟨distinct, shallow⟩ := report.toJson_spec
  exact Json.parse?_render words distinct (Nat.le_trans shallow (by decide))

end Report

section Bounds

/-- A number that is read has 64 bits. -/
theorem Text.lt_of_readHexNumber? {text : String} {value : Nat}
    (read : readHexNumber? text = some value) : value < UInt64.size := by
  obtain ⟨number, -, bounded⟩ := Option.bind_eq_some_iff.mp read
  split at bounded
  · cases bounded
    assumption
  · cases bounded

/-- What is found at an address has a program counter and an instruction number of 64 bits. -/
theorem Program.bounded_of_locateAddress {program : Program} {address : String}
    {location : Location} (found : program.locateAddress address = .ok location) :
    location.pc < UInt64.size ∧ location.instructionIndex < UInt64.size := by
  simp only [locateAddress, traceAddress] at found
  split at found
  · rename_i pc read
    have bounded := Text.lt_of_readHexNumber? read
    obtain ⟨stages, way⟩ := program.exists_traces_locate pc
    have found : program.locate pc = .ok location := found
    rw [found] at way
    cases way with
    | literal reaches =>
      have index := Evm.Bytecode.le_of_instructionIndex_eq_ok reaches.enters.owned
      exact ⟨bounded, Nat.lt_of_le_of_lt index bounded⟩
    | reconstructed reaches =>
      have index := Evm.Bytecode.le_of_instructionIndex_eq_ok reaches.enters.owned
      exact ⟨bounded, Nat.lt_of_le_of_lt index bounded⟩
  · cases found

end Bounds

end SourceTrace

import SourceTrace.Lookup.Program
import SourceTrace.Proofs.Evm.Ownership

/-!
# Ways through a lookup

`Program.Traces` lists all ways that the lookup of a program counter can go: the stages that it
passes, its outcome, and what its parts found on the way. `Program.traces_tracePc` shows that every
lookup goes one of these ways, and `Program.Traces.locate_eq` that a way which is open is the one it
goes; what holds of lookups is then shown way by way, without opening the lookup again.
-/

namespace SourceTrace.Program

/-- A program counter belongs to an instruction whose source map entry is known. -/
structure Enters (program : Program) (pc index : Nat) (entry : SourceMap.Entry) : Prop where
  owned : program.bytecode.instructionIndex pc = .ok index
  present : pc < program.bytecode.length
  resolved : program.sourceMap.resolve index = .ok entry

/-- A program counter leads to a source range that a node covers. -/
structure Reaches (program : Program) (pc index : Nat) (entry : SourceMap.Entry)
    (range : SourceRange) (node : Ast.Node) : Prop where
  enters : program.Enters pc index entry
  ranged : entry.range index = .ok (some range)
  covered : Ast.smallestContaining program.tree range = .ok node

/-- The text of a range that is cut out literally, if that is allowed and possible. -/
def cut? (program : Program) (range : SourceRange) : Option Snippet :=
  if program.literal then program.literalSnippet? range else none

/-- The ways that the lookup of a program counter can go, with the stages behind the start and the
outcome. -/
inductive Traces (program : Program) (pc : Nat) :
    List Stage → Except LookupError Location → Prop where
  | outside {error : LookupError}
      (failed : program.bytecode.instructionIndex pc = .error error) :
      Traces program pc [] (.error error)
  | padding {index : Nat} (owned : program.bytecode.instructionIndex pc = .ok index)
      (absent : program.bytecode.length ≤ pc) :
      Traces program pc [] (.error (.addressNotFound pc program.bytecode.length))
  | unresolved {index : Nat} {error : LookupError}
      (owned : program.bytecode.instructionIndex pc = .ok index)
      (present : pc < program.bytecode.length)
      (failed : program.sourceMap.resolve index = .error error) :
      Traces program pc [.bytecodeResolved] (.error error)
  | negative {index : Nat} {entry : SourceMap.Entry} {error : LookupError}
      (enters : program.Enters pc index entry) (failed : entry.range index = .error error) :
      Traces program pc [.bytecodeResolved, .sourceMapResolved] (.error error)
  | generated {index : Nat} {entry : SourceMap.Entry} (enters : program.Enters pc index entry)
      (ranged : entry.range index = .ok none) :
      Traces program pc [.bytecodeResolved, .sourceMapResolved]
        (.error (.noAssociatedSource index))
  | uncovered {index : Nat} {entry : SourceMap.Entry} {range : SourceRange} {error : LookupError}
      (enters : program.Enters pc index entry) (ranged : entry.range index = .ok (some range))
      (failed : Ast.smallestContaining program.tree range = .error error) :
      Traces program pc [.bytecodeResolved, .sourceMapResolved] (.error error)
  | literal {index : Nat} {entry : SourceMap.Entry} {range : SourceRange} {node : Ast.Node}
      {snippet : Snippet} (reaches : program.Reaches pc index entry range node)
      (cut : program.cut? range = some snippet) :
      Traces program pc
        [.bytecodeResolved, .sourceMapResolved, .nodeResolved, .literalExtracted, .done]
        (.ok ⟨program.fileName range.fileId, snippet.code, snippet.line,
          pc, index, entry, false⟩)
  | missing {index : Nat} {entry : SourceMap.Entry} {range : SourceRange} {node : Ast.Node}
      (reaches : program.Reaches pc index entry range node) (uncut : program.cut? range = none)
      (empty : node.relevantCode = "") :
      Traces program pc [.bytecodeResolved, .sourceMapResolved, .nodeResolved]
        (.error (.missingLiteralSource range.fileId))
  | reconstructed {index : Nat} {entry : SourceMap.Entry} {range : SourceRange} {node : Ast.Node}
      (reaches : program.Reaches pc index entry range node) (uncut : program.cut? range = none)
      (written : node.relevantCode ≠ "") :
      Traces program pc
        [.bytecodeResolved, .sourceMapResolved, .nodeResolved, .reconstructed, .done]
        (.ok ⟨program.fileName range.fileId, node.relevantCode, 0, pc, index, entry, true⟩)

variable {program : Program} {pc index : Nat} {entry : SourceMap.Entry}

/-- The code of a covered range is cut out, put together from the node, or missing. -/
theorem traces_traceCode {range : SourceRange} {node : Ast.Node}
    (reaches : program.Reaches pc index entry range node) :
    program.Traces pc
      ([.bytecodeResolved, .sourceMapResolved, .nodeResolved] ++
        (program.traceCode pc index entry range node).1.map Step.stage)
      (program.traceCode pc index entry range node).2 := by
  simp only [traceCode]
  split
  · rename_i snippet cut
    exact .literal reaches cut
  · rename_i uncut
    split
    · rename_i empty
      exact .missing reaches uncut (String.isEmpty_iff.mp empty)
    · rename_i written
      exact .reconstructed reaches uncut (fun empty => written (String.isEmpty_iff.mpr empty))

/-- From the source map entry on, a lookup goes one of the ways. -/
theorem traces_traceEntry (enters : program.Enters pc index entry) :
    program.Traces pc
      ([.bytecodeResolved, .sourceMapResolved] ++
        (program.traceEntry pc index entry).1.map Step.stage)
      (program.traceEntry pc index entry).2 := by
  simp only [traceEntry]
  split
  · rename_i error failed
    exact .negative enters failed
  · rename_i ranged
    exact .generated enters ranged
  · rename_i range ranged
    split
    · rename_i error failed
      exact .uncovered enters ranged failed
    · rename_i node covered
      exact traces_traceCode ⟨enters, ranged, covered⟩

/-- From the instruction on, a lookup goes one of the ways. -/
theorem traces_traceInstruction (owned : program.bytecode.instructionIndex pc = .ok index)
    (present : pc < program.bytecode.length) :
    program.Traces pc
      ([.bytecodeResolved] ++ (program.traceInstruction pc index).1.map Step.stage)
      (program.traceInstruction pc index).2 := by
  simp only [traceInstruction]
  split
  · rename_i error failed
    exact .unresolved owned present failed
  · rename_i entry resolved
    exact traces_traceEntry ⟨owned, present, resolved⟩

/-- Every lookup of a program counter goes one of the ways. -/
theorem traces_tracePc (program : Program) (pc : Nat) :
    program.Traces pc ((program.tracePc pc).1.map Step.stage) (program.tracePc pc).2 := by
  simp only [tracePc]
  split
  · rename_i error failed
    exact .outside failed
  · rename_i index owned
    split
    · rename_i absent
      exact .padding owned ((program.bytecode.byteAt?_eq_none_iff pc).mp absent)
    · rename_i byte found
      have present : pc < program.bytecode.length := (List.getElem?_eq_some_iff.mp found).1
      exact traces_traceInstruction owned present

/-- Every lookup has the outcome of one of the ways. -/
theorem exists_traces_locate (program : Program) (pc : Nat) :
    ∃ stages, program.Traces pc stages (program.locate pc) :=
  ⟨_, program.traces_tracePc pc⟩

section Outcome

variable {range : SourceRange} {node : Ast.Node} {stages others : List Stage}
  {outcome other : Except LookupError Location}

/-- Text that can be cut out is shown. -/
theorem traceCode_of_cut {snippet : Snippet} (cut : program.cut? range = some snippet) :
    (program.traceCode pc index entry range node).2 =
      .ok ⟨program.fileName range.fileId, snippet.code, snippet.line,
        pc, index, entry, false⟩ := by
  simp only [cut?] at cut
  simp only [traceCode, cut]

/-- Where no text can be cut out, the text of the node is shown. -/
theorem traceCode_of_uncut (uncut : program.cut? range = none)
    (written : node.relevantCode ≠ "") :
    (program.traceCode pc index entry range node).2 =
      .ok ⟨program.fileName range.fileId, node.relevantCode, 0, pc, index, entry, true⟩ := by
  simp only [cut?] at uncut
  simp only [traceCode, uncut]
  rw [if_neg (fun empty => written (String.isEmpty_iff.mp empty))]

/-- Where no text can be cut out and the node has none, the text is missing. -/
theorem traceCode_of_missing (uncut : program.cut? range = none) (empty : node.relevantCode = "") :
    (program.traceCode pc index entry range node).2 =
      .error (.missingLiteralSource range.fileId) := by
  simp only [cut?] at uncut
  simp only [traceCode, uncut]
  rw [if_pos (String.isEmpty_iff.mpr empty)]

/-- A lookup that knows its source map entry goes on from there. -/
theorem Enters.locate_eq (enters : program.Enters pc index entry) :
    program.locate pc = (program.traceEntry pc index entry).2 := by
  obtain ⟨byte, found⟩ : ∃ byte, program.bytecode.byteAt? pc = some byte :=
    ⟨_, List.getElem?_eq_getElem enters.present⟩
  simp only [locate, tracePc, enters.owned, found, traceInstruction, enters.resolved]

/-- A lookup that reaches a node ends with the code for it. -/
theorem Reaches.locate_eq (reaches : program.Reaches pc index entry range node) :
    program.locate pc = (program.traceCode pc index entry range node).2 := by
  simp only [reaches.enters.locate_eq, traceEntry, reaches.ranged, reaches.covered]

/-- A way that is open to a lookup is the way that it goes. -/
theorem Traces.locate_eq (traces : program.Traces pc stages outcome) :
    program.locate pc = outcome := by
  cases traces with
  | outside failed => simp only [locate, tracePc, failed]
  | padding owned absent =>
    simp only [locate, tracePc, owned, (program.bytecode.byteAt?_eq_none_iff pc).mpr absent]
  | unresolved owned present failed =>
    obtain ⟨byte, found⟩ : ∃ byte, program.bytecode.byteAt? pc = some byte :=
      ⟨_, List.getElem?_eq_getElem present⟩
    simp only [locate, tracePc, owned, found, traceInstruction, failed]
  | negative enters failed => simp only [enters.locate_eq, traceEntry, failed]
  | generated enters ranged => simp only [enters.locate_eq, traceEntry, ranged]
  | uncovered enters ranged failed => simp only [enters.locate_eq, traceEntry, ranged, failed]
  | literal reaches cut => rw [reaches.locate_eq, traceCode_of_cut cut]
  | missing reaches uncut empty => rw [reaches.locate_eq, traceCode_of_missing uncut empty]
  | reconstructed reaches uncut written =>
    rw [reaches.locate_eq, traceCode_of_uncut uncut written]

/-- Ways that are open to one lookup have one outcome. -/
theorem Traces.outcome_unique (traces : program.Traces pc stages outcome)
    (also : program.Traces pc others other) : other = outcome :=
  also.locate_eq.symm.trans traces.locate_eq

end Outcome

end SourceTrace.Program

import SourceTrace.Lookup.Program
import SourceTrace.Proofs.Ast.Forest
import SourceTrace.Proofs.Evm.Ownership
import SourceTrace.Proofs.SourceMap.Ranges

/-!
# Units of other files do not interfere

A lookup in a forest walks all source units twice, once for the covering node and once for the path
of the file. `Program.locate_withForest` shows that only units with a node in the file of the source
map entry have a say in it: others may be inserted and deleted at will, and if a single unit has all
nodes of the file, the units may stand in any order.
-/

namespace SourceTrace.Program

/-- A program with a forest in place of its tree. -/
def withForest (program : Program) (units : List Json) : Program :=
  { program with tree := .arr units }

variable {program : Program} {first second : List Json} {pc index : Nat} {entry : SourceMap.Entry}

/-- A program with its own units is the program itself. -/
theorem withForest_eq_self (forest : program.tree = .arr first) :
    program.withForest first = program := by
  cases program
  cases forest
  rfl

/-- The name of a file depends only on its units. -/
theorem fileName_withForest {fileId : Int64}
    (same : Ast.unitsOf fileId first = Ast.unitsOf fileId second) :
    (program.withForest first).fileName fileId = (program.withForest second).fileName fileId := by
  simp only [fileName, withForest, Ast.unitPath?_eq_of_unitsOf_eq same]

/-- Once the node is found, the forest is only asked for the name of the file. -/
theorem traceCode_withForest {range : SourceRange} (node : Ast.Node)
    (same : Ast.unitsOf range.fileId first = Ast.unitsOf range.fileId second) :
    (program.withForest first).traceCode pc index entry range node =
      (program.withForest second).traceCode pc index entry range node := by
  have literal : (program.withForest first).literalSnippet? range =
      (program.withForest second).literalSnippet? range := rfl
  have allowed : (program.withForest first).literal = (program.withForest second).literal := rfl
  simp only [traceCode, fileName_withForest same, literal, allowed]

/-- From the source map entry on, only the units of its file count. -/
theorem traceEntry_withForest
    (same : Ast.unitsOf entry.fileId first = Ast.unitsOf entry.fileId second) :
    (program.withForest first).traceEntry pc index entry =
      (program.withForest second).traceEntry pc index entry := by
  simp only [traceEntry]
  split
  · rfl
  · rfl
  · rename_i range ranged
    obtain ⟨-, rfl⟩ := (entry.range_eq_ok_some_iff index range).mp ranged
    have located : Ast.smallestContaining (program.withForest first).tree entry.span =
        Ast.smallestContaining (program.withForest second).tree entry.span :=
      Ast.smallestContaining_eq_of_unitsOf_eq same
    rw [located]
    split
    · rfl
    · rename_i node covered
      rw [traceCode_withForest node same]

/-- A lookup that resolves a source map entry depends only on the units of the entry's file: all of
its steps are the same, and so is its outcome. -/
theorem tracePc_withForest (owned : program.bytecode.instructionIndex pc = .ok index)
    (resolved : program.sourceMap.resolve index = .ok entry)
    (same : Ast.unitsOf entry.fileId first = Ast.unitsOf entry.fileId second) :
    (program.withForest first).tracePc pc = (program.withForest second).tracePc pc := by
  have sameOwned : ∀ units, (program.withForest units).bytecode.instructionIndex pc = .ok index :=
    fun _ => owned
  have sameResolved : ∀ units, (program.withForest units).sourceMap.resolve index = .ok entry :=
    fun _ => resolved
  have bytes : (program.withForest first).bytecode = (program.withForest second).bytecode := rfl
  simp only [tracePc, sameOwned, traceInstruction, sameResolved, traceEntry_withForest same, bytes]

/-- The lookup of a program counter is left alone by inserting and deleting units that are foreign
to the file of its source map entry, and by any reordering if all nodes in that file belong to one
unit. -/
theorem locate_withForest {units : List Json} (forest : program.tree = .arr units)
    (owned : program.bytecode.instructionIndex pc = .ok index)
    (resolved : program.sourceMap.resolve index = .ok entry) :
    (∀ others, Ast.ForeignEdit entry.fileId units others →
      (program.withForest others).locate pc = program.locate pc) ∧
    (Ast.InOneUnit entry.fileId units → ∀ others, units.Perm others →
      (program.withForest others).locate pc = program.locate pc) := by
  have unchanged : ∀ others, Ast.unitsOf entry.fileId units = Ast.unitsOf entry.fileId others →
      (program.withForest others).locate pc = program.locate pc := by
    intro others same
    have traces := tracePc_withForest owned resolved same
    rw [withForest_eq_self forest] at traces
    rw [locate, locate, traces]
  constructor
  · intro others edit
    exact unchanged others edit.unitsOf_eq
  · intro single others reordered
    exact unchanged others (single.unitsOf_eq_of_perm reordered)

/-- A forest in which the unit of another file is replaced by two, one of them in front and of a
kind that is not entered, and the same forest in reverse order. -/
theorem locate_withForest_two_files :
    let own : Json := .obj [("nodeType", .str "SourceUnit"), ("src", .str "0:40:0"),
      ("absolutePath", .str "a.sol"), ("nodes", .arr [.obj [("nodeType", .str "Identifier"),
        ("name", .str "owner"), ("src", .str "5:5:0")]])]
    let other : Json := .obj [("nodeType", .str "SourceUnit"), ("src", .str "0:9:1"),
      ("absolutePath", .str "b.sol")]
    let nested : Json := .arr [.obj [("src", .str "5:5:0")]]
    let malformed : Json := .obj [("nodeType", .str "SourceUnit"), ("src", .str "5:5")]
    let program : Program := {
      bytecode := ⟨[0x00], by simp⟩
      sourceMap := ⟨["5:5:0:-:0"]⟩
      tree := .arr [own, other] }
    program.bytecode.instructionIndex 0 = .ok 0 ∧
      program.sourceMap.resolve 0 = .ok ⟨5, 5, 0, some .regular, some 0⟩ ∧
      Ast.ForeignEdit 0 [own, other] [nested, own, malformed] ∧
      (program.withForest [nested, own, malformed]).locate 0 = program.locate 0 ∧
      Ast.InOneUnit 0 [own, other] ∧
      (program.withForest [other, own]).locate 0 = program.locate 0 := by
  intro own other nested malformed program
  have owned : program.bytecode.instructionIndex 0 = .ok 0 :=
    Evm.Bytecode.instructionIndex_of_lt_length (by decide)
  have resolved : program.sourceMap.resolve 0 = .ok ⟨5, 5, 0, some .regular, some 0⟩ := rfl
  have otherForeign : Ast.isForeign 0 other = true := rfl
  have edit : Ast.ForeignEdit 0 [own, other] [nested, own, malformed] :=
    .insert rfl (.keep own (.insert rfl (.delete otherForeign .nil)))
  have single : Ast.InOneUnit 0 [own, other] := by
    simp [Ast.InOneUnit, otherForeign]
  have forest : program.tree = .arr [own, other] := rfl
  obtain ⟨edited, reordered⟩ := locate_withForest forest owned resolved
  exact ⟨owned, resolved, edit, edited _ edit, single, reordered single _ (List.Perm.swap ..)⟩

end SourceTrace.Program

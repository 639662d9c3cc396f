import SourceTrace.Lookup.Program
import SourceTrace.Proofs.Evm.Ownership

/-!
# Lookups are local

The lookup of a program counter reads the bytes up to it and the source map entries up to the one of
its instruction, and nothing behind them. `Program.locate_eq_of_sharesUpTo` compares two programs
that differ only there, such as in the data that a compiler appends to the code.

Behind both prefixes stand numbers that do depend on the rest: the padded length and the number of
entries. They are reported only where the prefix is the whole, and then nothing can differ behind
it.
-/

namespace SourceTrace

/-- Lists that agree up to a place both have it, or are the same. -/
theorem eq_or_lt_length_of_take_eq {α : Type} {first second : List α} {place : Nat}
    (shared : first.take (place + 1) = second.take (place + 1)) :
    first = second ∨ place < first.length ∧ place < second.length := by
  have lengths := congrArg List.length shared
  simp only [List.length_take] at lengths
  by_cases present : place < first.length
  · right
    omega
  · left
    have whole : first.take (place + 1) = first := List.take_of_length_le (by omega)
    have otherWhole : second.take (place + 1) = second := List.take_of_length_le (by omega)
    rw [← whole, shared, otherWhole]

section Bytecode

variable {first second : Evm.Bytecode} {pc : Nat}

/-- The instruction that owns a position does not depend on the bytes behind it. -/
theorem Evm.Bytecode.instructionIndex_eq_of_take_eq
    (shared : first.bytes.take (pc + 1) = second.bytes.take (pc + 1)) :
    first.instructionIndex pc = second.instructionIndex pc := by
  rcases eq_or_lt_length_of_take_eq shared with same | ⟨present, otherPresent⟩
  · cases first
    cases second
    cases same
    rfl
  · rw [instructionIndex_of_lt_length present, instructionIndex_of_lt_length otherPresent,
      ← countOpcodes_take, shared, countOpcodes_take]

/-- A byte depends on the bytes up to it alone. -/
theorem Evm.Bytecode.byteAt?_eq_of_take_eq
    (shared : first.bytes.take (pc + 1) = second.bytes.take (pc + 1)) :
    first.byteAt? pc = second.byteAt? pc := by
  have bytes := congrArg (fun bytes => bytes[pc]?) shared
  simpa [byteAt?, List.getElem?_take] using bytes

end Bytecode

/-- Resolving an entry does not depend on the entries behind it. -/
theorem SourceMap.resolve_eq_of_take_eq {first second : SourceMap} {index : Nat}
    (shared : first.entries.take (index + 1) = second.entries.take (index + 1)) :
    first.resolve index = second.resolve index := by
  rcases eq_or_lt_length_of_take_eq shared with same | ⟨inside, otherInside⟩
  · cases first
    cases second
    cases same
    rfl
  · have bounded : ¬first.size ≤ index := by simpa [size] using inside
    have otherBounded : ¬second.size ≤ index := by simpa [size] using otherInside
    rw [resolve, resolve, if_neg bounded, if_neg otherBounded, entriesBackFrom, entriesBackFrom,
      shared]

namespace Program

/-- Two programs share all that the lookup of a program counter may read. Where one of the lists
ends before the prefix that is compared, so does the other. -/
structure SharesUpTo (first second : Program) (pc : Nat) : Prop where
  tree : first.tree = second.tree
  sources : first.sources = second.sources
  fallback : first.fallback = second.fallback
  literal : first.literal = second.literal
  /-- The bytes up to the program counter are the same. -/
  bytes : first.bytecode.bytes.take (pc + 1) = second.bytecode.bytes.take (pc + 1)
  /-- The entries up to the one of the instruction are the same. -/
  entries : ∀ index, first.bytecode.instructionIndex pc = .ok index →
    first.sourceMap.entries.take (index + 1) = second.sourceMap.entries.take (index + 1)

namespace SharesUpTo

variable {first second : Program} {pc index : Nat}

/-- From the source map entry on, a lookup reads neither the bytecode nor the source map. -/
theorem traceEntry_eq (shares : first.SharesUpTo second pc) (entry : SourceMap.Entry) :
    first.traceEntry pc index entry = second.traceEntry pc index entry := by
  obtain ⟨tree, sources, fallback, literal, -, -⟩ := shares
  cases first
  cases second
  cases tree
  cases sources
  cases fallback
  cases literal
  rfl

/-- Programs that share all up to a program counter go on alike from its instruction. -/
theorem traceInstruction_eq (shares : first.SharesUpTo second pc)
    (owned : first.bytecode.instructionIndex pc = .ok index) :
    first.traceInstruction pc index = second.traceInstruction pc index := by
  have resolved := SourceMap.resolve_eq_of_take_eq (shares.entries index owned)
  simp only [traceInstruction, resolved, shares.traceEntry_eq]

/-- All steps of the lookup are the same, and so is its outcome. -/
theorem tracePc_eq (shares : first.SharesUpTo second pc) :
    first.tracePc pc = second.tracePc pc := by
  have owners := Evm.Bytecode.instructionIndex_eq_of_take_eq shares.bytes
  have bytes := Evm.Bytecode.byteAt?_eq_of_take_eq shares.bytes
  simp only [tracePc, ← owners, ← bytes]
  cases owned : first.bytecode.instructionIndex pc with
  | error error => rfl
  | ok index =>
    cases found : first.bytecode.byteAt? pc with
    | none =>
      -- In the padding the length is reported, but there the bytecodes have no more to differ in.
      have absent := (first.bytecode.byteAt?_eq_none_iff pc).mp found
      rcases eq_or_lt_length_of_take_eq shares.bytes with same | ⟨present, -⟩
      · simp only [Evm.Bytecode.length, same]
      · exact absurd present (Nat.not_lt.mpr absent)
    | some byte => simp only [shares.traceInstruction_eq owned]

end SharesUpTo

/-- Programs that share the bytes up to a program counter and the source map entries up to the one
of its instruction have the same location or the same error there, whatever follows. -/
theorem locate_eq_of_sharesUpTo {first second : Program} {pc : Nat}
    (shares : first.SharesUpTo second pc) : first.locate pc = second.locate pc := by
  rw [locate, locate, shares.tracePc_eq]

/-- Two programs that go on differently behind the operand of their first push: one with a stop and
a malformed entry, the other with a push that lacks its operand and an entry that says nothing. -/
theorem locate_eq_behind_push :
    let tree : Json := .obj [("nodeType", .str "Identifier"), ("name", .str "owner"),
      ("src", .str "0:40:0")]
    let first : Program := {
      bytecode := ⟨[0x60, 0x01, 0x00], by simp⟩
      sourceMap := ⟨["5:3:0:-:0", "x:y"]⟩
      tree := tree }
    let second : Program := {
      bytecode := ⟨[0x60, 0x01, 0x7f, 0xa2], by simp⟩
      sourceMap := ⟨["5:3:0:-:0", "", ":7"]⟩
      tree := tree }
    first.SharesUpTo second 1 ∧ first.bytecode ≠ second.bytecode ∧
      first.sourceMap ≠ second.sourceMap ∧ first.locate 1 = second.locate 1 := by
  intro tree first second
  have shares : first.SharesUpTo second 1 := by
    refine ⟨rfl, rfl, rfl, rfl, rfl, ?_⟩
    intro index owned
    have number : first.bytecode.instructionIndex 1 = .ok 0 :=
      Evm.Bytecode.instructionIndex_of_lt_length (by decide)
    rw [number] at owned
    cases owned
    rfl
  exact ⟨shares, by simp [first, second], by simp [first, second],
    locate_eq_of_sharesUpTo shares⟩

end Program

end SourceTrace

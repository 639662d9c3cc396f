import Mathlib.Logic.ExistsUnique
import SourceTrace.Evm.Bytecode

/-!
# Owners of program counters

The number of an instruction is found by counting opcodes byte by byte. `exists_owner_iff` shows
that this walk agrees with the list of decoded instructions: a position has an owner exactly below
the padded length, and the owner is the instruction whose span covers the position. The count reads
no byte after the position, which `countOpcodes_take` states.
`Bytecode.instructionIndex_finds_owner` says all this of a program.
-/

namespace SourceTrace.Evm

/-- The span of an instruction covers a position. Operand bytes that the opcode announces count even
where they are padding. -/
def Instruction.Owns (instruction : Instruction) (pc : Nat) : Prop :=
  instruction.pc ≤ pc ∧ pc < instruction.pc + width instruction.opcode

/-- Whether an instruction owns a program counter can be decided. -/
instance (instruction : Instruction) (pc : Nat) : Decidable (instruction.Owns pc) :=
  inferInstanceAs (Decidable (_ ∧ _))

/-- Positions inside the pending operand bytes see no opcode. -/
theorem countOpcodes_of_lt_pending {pc pending : Nat} {bytes : List UInt8}
    (inside : pc < pending) : countOpcodes pc pending bytes = 0 := by
  induction bytes generalizing pc pending with
  | nil => simp [countOpcodes]
  | cons byte rest inductionHypothesis =>
    obtain ⟨left, rfl⟩ : ∃ left, pending = left + 1 := ⟨pending - 1, by omega⟩
    cases pc with
    | zero => simp [countOpcodes]
    | succ pc =>
      simp only [countOpcodes]
      exact inductionHypothesis (by omega)

/-- Pending operand bytes can be dropped before counting. -/
theorem countOpcodes_drop_pending (pc pending : Nat) (bytes : List UInt8) :
    countOpcodes (pending + pc) pending bytes = countOpcodes pc 0 (bytes.drop pending) := by
  induction pending generalizing bytes with
  | zero => simp
  | succ pending inductionHypothesis =>
    cases bytes with
    | nil => simp [countOpcodes]
    | cons byte rest =>
      rw [show pending + 1 + pc = (pending + pc) + 1 by omega, List.drop_succ_cons]
      simp only [countOpcodes]
      exact inductionHypothesis rest

/-- Every position of the first instruction sees one opcode. -/
theorem countOpcodes_of_lt_width {pc : Nat} {opcode : UInt8} {rest : List UInt8}
    (inside : pc < width opcode) : countOpcodes pc 0 (opcode :: rest) = 1 := by
  cases pc with
  | zero => simp [countOpcodes]
  | succ pc =>
    have pending : pc < operandLength opcode := by
      simp only [width] at inside
      omega
    simp [countOpcodes, countOpcodes_of_lt_pending pending]

/-- A position behind the first instruction sees one opcode more than it does without it. -/
theorem countOpcodes_width_add (pc : Nat) (opcode : UInt8) (rest : List UInt8) :
    countOpcodes (width opcode + pc) 0 (opcode :: rest) =
      1 + countOpcodes pc 0 (rest.drop (operandLength opcode)) := by
  rw [show width opcode + pc = (operandLength opcode + pc) + 1 by simp only [width]; omega]
  simp only [countOpcodes]
  rw [countOpcodes_drop_pending]

/-- Counting reads no byte after the position. -/
theorem countOpcodes_take (pc pending : Nat) (bytes : List UInt8) :
    countOpcodes pc pending (bytes.take (pc + 1)) = countOpcodes pc pending bytes := by
  induction bytes generalizing pc pending with
  | nil => simp
  | cons byte rest inductionHypothesis =>
    cases pc with
    | zero => cases pending <;> simp [countOpcodes]
    | succ pc => cases pending <;> simp [countOpcodes, inductionHypothesis]

/-- There are at most as many opcodes as bytes. -/
theorem countOpcodes_le (pc pending : Nat) (bytes : List UInt8) :
    countOpcodes pc pending bytes ≤ pc + 1 := by
  fun_induction countOpcodes pc pending bytes <;> omega

/-- No instruction starts before decoding does. -/
theorem le_pc_of_mem_decodeFrom {start index : Nat} {bytes : List UInt8} {instruction : Instruction}
    (mem : instruction ∈ decodeFrom start index bytes) : start ≤ instruction.pc := by
  fun_induction decodeFrom start index bytes with
  | case1 => simp at mem
  | case2 start index opcode rest inductionHypothesis =>
    rcases List.mem_cons.mp mem with rfl | later
    · exact Nat.le_refl _
    · have behind := inductionHypothesis later
      omega

/-- No byte lies behind the padded end. -/
theorem length_le_paddedLength (bytes : List UInt8) : bytes.length ≤ paddedLength bytes := by
  fun_induction paddedLength bytes with
  | case1 => simp
  | case2 opcode rest inductionHypothesis =>
    simp only [List.length_drop] at inductionHypothesis
    simp only [List.length_cons, width]
    omega

/-- The walk over the bytes and the decoded instructions agree on which instruction owns a position,
and on which positions have an owner. -/
theorem exists_owner_iff (start index pc number : Nat) (bytes : List UInt8) :
    (∃ instruction, (decodeFrom start index bytes)[number]? = some instruction ∧
        instruction.Owns (start + pc)) ↔
      pc < paddedLength bytes ∧ countOpcodes pc 0 bytes = number + 1 := by
  -- The walk skips one instruction at a time, so the induction drops the bytes of the first one.
  fun_induction decodeFrom start index bytes generalizing pc number with
  | case1 => simp [paddedLength]
  | case2 start index opcode rest inductionHypothesis =>
    rw [paddedLength]
    by_cases first : pc < width opcode
    · rw [countOpcodes_of_lt_width first]
      cases number with
      | zero =>
        simp only [List.getElem?_cons_zero, Option.some.injEq, exists_eq_left', Instruction.Owns,
          and_true]
        omega
      | succ number =>
        simp only [List.getElem?_cons_succ]
        constructor
        · rintro ⟨instruction, found, owns⟩
          have behind := le_pc_of_mem_decodeFrom (List.mem_of_getElem? found)
          have before := owns.1
          omega
        · omega
    · obtain ⟨later, rfl⟩ : ∃ later, pc = width opcode + later :=
        ⟨pc - width opcode, by omega⟩
      rw [countOpcodes_width_add]
      cases number with
      | zero =>
        simp only [List.getElem?_cons_zero, Option.some.injEq, exists_eq_left', Instruction.Owns]
        constructor
        · omega
        · rintro ⟨inside, count⟩
          cases tail : rest.drop (operandLength opcode) with
          | nil =>
            simp only [tail, paddedLength] at inside
            omega
          | cons next bytes =>
            have positive := countOpcodes_pos later next bytes
            rw [tail] at count
            omega
      | succ number =>
        simp only [List.getElem?_cons_succ]
        rw [← Nat.add_assoc, inductionHypothesis later number]
        omega

namespace Bytecode

/-- The number of the instruction that owns a position is its place in the list of instructions. -/
theorem instructionIndex_eq_ok_iff (code : Bytecode) (pc index : Nat) :
    code.instructionIndex pc = .ok index ↔
      ∃ instruction, code.instructions[index]? = some instruction ∧ instruction.Owns pc := by
  have owners := exists_owner_iff 0 0 pc index code.bytes
  rw [Nat.zero_add] at owners
  rw [instructions, owners, instructionIndex, paddedLength]
  obtain ⟨opcode, rest, bytes⟩ := List.exists_cons_of_ne_nil code.nonempty
  have positive := countOpcodes_pos pc opcode rest
  rw [← bytes] at positive
  split
  · simp only [reduceCtorEq, false_iff]
    omega
  · simp only [Except.ok.injEq]
    omega

/-- A position has no owner exactly from the padded length on. -/
theorem instructionIndex_eq_error_iff (code : Bytecode) (pc : Nat) (error : LookupError) :
    code.instructionIndex pc = .error error ↔
      code.paddedLength ≤ pc ∧ error = .addressOutOfRange pc code.paddedLength := by
  rw [instructionIndex]
  split
  · rename_i outside
    simp [outside, eq_comm]
  · rename_i inside
    simp [inside]

/-- A position of a byte that is present has an owner. -/
theorem instructionIndex_of_lt_length {code : Bytecode} {pc : Nat} (present : pc < code.length) :
    code.instructionIndex pc = .ok (countOpcodes pc 0 code.bytes - 1) := by
  have bounded := length_le_paddedLength code.bytes
  rw [length] at present
  rw [instructionIndex, paddedLength, if_neg (by omega)]

/-- The number of an instruction is at most its position. -/
theorem le_of_instructionIndex_eq_ok {code : Bytecode} {pc index : Nat}
    (owned : code.instructionIndex pc = .ok index) : index ≤ pc := by
  have counted := countOpcodes_le pc 0 code.bytes
  rw [instructionIndex] at owned
  split at owned
  · cases owned
  · cases owned
    omega

/-- There is a byte at each program counter below the length, and only there. -/
theorem byteAt?_eq_none_iff (code : Bytecode) (pc : Nat) :
    code.byteAt? pc = none ↔ code.length ≤ pc :=
  List.getElem?_eq_none_iff

/-- A position has exactly one owner below the padded end, and none from there on. -/
theorem existsUnique_owner_iff (code : Bytecode) (pc : Nat) :
    (∃! index : Nat, ∃ instruction, code.instructions[index]? = some instruction ∧
        instruction.Owns pc) ↔ pc < code.paddedLength := by
  simp only [← instructionIndex_eq_ok_iff]
  constructor
  · rintro ⟨index, owned, -⟩
    apply Nat.lt_of_not_ge
    intro outside
    rw [(code.instructionIndex_eq_error_iff pc _).mpr ⟨outside, rfl⟩] at owned
    cases owned
  · intro inside
    cases outcome : code.instructionIndex pc with
    | error error =>
      have outside := ((code.instructionIndex_eq_error_iff pc error).mp outcome).1
      omega
    | ok index =>
      refine ⟨index, rfl, ?_⟩
      rintro other owned
      cases owned
      rfl

/-- A signed program counter that is not negative is looked up as it is. -/
theorem instructionIndexOfInt_natCast (code : Bytecode) (pc : Nat) :
    code.instructionIndexOfInt pc = code.instructionIndex pc := by
  rw [instructionIndexOfInt, if_neg (by omega), Int.toNat_natCast]

/-- A program counter is refused as negative exactly if it is. -/
theorem instructionIndexOfInt_eq_negative_iff (code : Bytecode) (pc : Int) :
    code.instructionIndexOfInt pc = .error (.negativeProgramCounter pc) ↔ pc < 0 := by
  rw [instructionIndexOfInt]
  split
  · rename_i negative
    simp [negative]
  · rename_i natural
    simp [instructionIndex_eq_error_iff, natural]

/-- The walk over the bytes finds the owner: the number of a position is the place of the one
instruction that owns it, positions from the padded end on are refused, and a signed program counter
is refused exactly if it is negative. -/
theorem instructionIndex_finds_owner (code : Bytecode) :
    (∀ pc index, code.instructionIndex pc = .ok index ↔
      ∃ instruction, code.instructions[index]? = some instruction ∧ instruction.Owns pc) ∧
    (∀ pc error, code.instructionIndex pc = .error error ↔
      code.paddedLength ≤ pc ∧ error = .addressOutOfRange pc code.paddedLength) ∧
    (∀ pc, (∃! index : Nat, ∃ instruction, code.instructions[index]? = some instruction ∧
      instruction.Owns pc) ↔ pc < code.paddedLength) ∧
    (∀ pc : Nat, code.instructionIndexOfInt pc = code.instructionIndex pc) ∧
    (∀ pc : Int, code.instructionIndexOfInt pc = .error (.negativeProgramCounter pc) ↔
      pc < 0) :=
  ⟨code.instructionIndex_eq_ok_iff, code.instructionIndex_eq_error_iff,
    code.existsUnique_owner_iff, code.instructionIndexOfInt_natCast,
      code.instructionIndexOfInt_eq_negative_iff⟩

end Bytecode

end SourceTrace.Evm

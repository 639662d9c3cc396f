import SourceTrace.Proofs.Evm.Ownership

/-!
# The instructions of a program cut up its bytes

`ofBytes_partitioned` says that decoding loses nothing: the instructions, put behind one another,
are the bytes of the program, and each starts where the one before it ends. Only the last
instruction can lack operand bytes, so the padded end is its end, and a program is padded exactly if
it lacks some.
-/

namespace SourceTrace.Evm

namespace Instruction

/-- The bytes of an instruction that are present. -/
def bytes (instruction : Instruction) : List UInt8 :=
  instruction.opcode :: instruction.operand

/-- The position behind an instruction, the padding of its operand included. -/
def next (instruction : Instruction) : Nat :=
  instruction.pc + width instruction.opcode

/-- An instruction with all the operand bytes that its opcode announces. -/
def IsWhole (instruction : Instruction) : Prop :=
  instruction.operand.length = operandLength instruction.opcode

/-- An instruction is cut out of a program at its position: the opcode stands there, and the operand
is what follows it up to the next instruction or to the end of the program. -/
structure IsCutFrom (instruction : Instruction) (program : List UInt8) : Prop where
  opcode_at : program[instruction.pc]? = some instruction.opcode
  bounds : instruction.pc + 1 ≤ min instruction.next program.length ∧
    min instruction.next program.length ≤ program.length
  operand_eq : instruction.operand =
    program.extract (instruction.pc + 1) (min instruction.next program.length)

end Instruction

/-- Instructions that cut a program into pieces without gaps. -/
structure Partitions (instructions : List Instruction) (program : List UInt8) : Prop where
  joined : instructions.flatMap Instruction.bytes = program
  numbered : ∀ (number : Nat) (instruction : Instruction),
    instructions[number]? = some instruction → instruction.index = number
  first : ∀ instruction : Instruction, instructions[0]? = some instruction → instruction.pc = 0
  adjoining : ∀ (number : Nat) (instruction following : Instruction),
    instructions[number]? = some instruction → instructions[number + 1]? = some following →
      following.pc = instruction.next
  whole : ∀ instruction ∈ instructions.dropLast, instruction.IsWhole
  cut : ∀ instruction ∈ instructions, instruction.IsCutFrom program

/-- Where the last of some instructions ends, against the bytes that are present. -/
structure EndsAt (instructions : List Instruction) (length padded : Nat) : Prop where
  end_eq : ∃ last, instructions.getLast? = some last ∧ padded = last.next ∧
    (padded = length ↔ last.IsWhole)
  length_le : length ≤ padded
  le_length_add : padded ≤ length + 32

section Decoding

variable {start index number : Nat} {bytes : List UInt8} {instruction : Instruction}

/-- Only empty bytes have no instructions. -/
theorem decodeFrom_eq_nil_iff : decodeFrom start index bytes = [] ↔ bytes = [] := by
  cases bytes <;> simp [decodeFrom]

/-- The first instruction starts where decoding starts. -/
theorem pc_of_head_decodeFrom (found : (decodeFrom start index bytes)[0]? = some instruction) :
    instruction.pc = start := by
  cases bytes with
  | nil => simp [decodeFrom] at found
  | cons opcode rest =>
    rw [decodeFrom, List.getElem?_cons_zero] at found
    cases found
    rfl

/-- Decoding loses no byte and adds none. -/
theorem flatMap_bytes_decodeFrom (start index : Nat) (bytes : List UInt8) :
    (decodeFrom start index bytes).flatMap Instruction.bytes = bytes := by
  fun_induction decodeFrom start index bytes with
  | case1 => rfl
  | case2 start index opcode rest inductionHypothesis =>
    rw [List.flatMap_cons, inductionHypothesis, Instruction.bytes, List.cons_append,
      List.take_append_drop]

/-- Instructions are numbered in turn. -/
theorem index_of_getElem?_decodeFrom
    (found : (decodeFrom start index bytes)[number]? = some instruction) :
    instruction.index = index + number := by
  fun_induction decodeFrom start index bytes generalizing number with
  | case1 => simp at found
  | case2 start index opcode rest inductionHypothesis =>
    cases number with
    | zero =>
      cases found
      rfl
    | succ number =>
      rw [List.getElem?_cons_succ] at found
      have counted := inductionHypothesis found
      omega

/-- An instruction starts where the one before it ends. -/
theorem pc_of_getElem?_decodeFrom_succ {following : Instruction}
    (found : (decodeFrom start index bytes)[number]? = some instruction)
    (foundNext : (decodeFrom start index bytes)[number + 1]? = some following) :
    following.pc = instruction.next := by
  fun_induction decodeFrom start index bytes generalizing number with
  | case1 => simp at found
  | case2 start index opcode rest inductionHypothesis =>
    rw [List.getElem?_cons_succ] at foundNext
    cases number with
    | zero =>
      cases found
      exact pc_of_head_decodeFrom foundNext
    | succ number =>
      rw [List.getElem?_cons_succ] at found
      exact inductionHypothesis found foundNext

/-- An instruction that others follow lacks no operand byte. -/
theorem isWhole_of_mem_dropLast_decodeFrom
    (mem : instruction ∈ (decodeFrom start index bytes).dropLast) : instruction.IsWhole := by
  fun_induction decodeFrom start index bytes with
  | case1 => simp at mem
  | case2 start index opcode rest inductionHypothesis =>
    by_cases ends : rest.drop (operandLength opcode) = []
    · rw [ends, decodeFrom, List.dropLast_singleton] at mem
      cases mem
    · rw [List.dropLast_cons_of_ne_nil (mt decodeFrom_eq_nil_iff.mp ends)] at mem
      rcases List.mem_cons.mp mem with rfl | later
      · rw [List.drop_eq_nil_iff] at ends
        simp only [Instruction.IsWhole, List.length_take]
        omega
      · exact inductionHypothesis later

/-- Every decoded instruction is cut out of the program at its position. -/
theorem isCutFrom_of_mem_decodeFrom {program : List UInt8} (rest_eq : program.drop start = bytes)
    (mem : instruction ∈ decodeFrom start index bytes) : instruction.IsCutFrom program := by
  -- What is left to decode is the program without its first `start` bytes, also when `start` lies
  -- in the padding and nothing is left.
  fun_induction decodeFrom start index bytes with
  | case1 => simp at mem
  | case2 start index opcode rest inductionHypothesis =>
    have following : program.drop (start + 1) = rest := by
      rw [← List.drop_drop, rest_eq, List.drop_one, List.tail_cons]
    rcases List.mem_cons.mp mem with rfl | later
    · have inside : start < program.length := by
        have counted := congrArg List.length rest_eq
        simp only [List.length_drop, List.length_cons] at counted
        omega
      have counted := congrArg List.length following
      simp only [List.length_drop] at counted
      constructor
      case opcode_at =>
        have head := congrArg (·[0]?) rest_eq
        simpa using head
      case bounds =>
        simp only [Instruction.next, width]
        omega
      case operand_eq =>
        simp only [Instruction.next, width, List.extract_eq_take_drop, following]
        rw [List.take_eq_take_iff]
        omega
    · apply inductionHypothesis _ later
      rw [width, ← Nat.add_assoc, ← List.drop_drop, following]

/-- The padded end is the end of the last instruction, and what is padded is what that one lacks. -/
theorem exists_last_decodeFrom (start index : Nat) (present : bytes ≠ []) :
    ∃ last, (decodeFrom start index bytes).getLast? = some last ∧
      start + paddedLength bytes = last.next ∧
      paddedLength bytes + last.operand.length = bytes.length + operandLength last.opcode := by
  fun_induction decodeFrom start index bytes with
  | case1 => contradiction
  | case2 start index opcode rest inductionHypothesis =>
    rw [paddedLength]
    by_cases ends : rest.drop (operandLength opcode) = []
    · rw [ends, decodeFrom, paddedLength]
      refine ⟨⟨start, index, opcode, rest.take (operandLength opcode)⟩, rfl, rfl, ?_⟩
      rw [List.drop_eq_nil_iff] at ends
      simp only [List.length_take, List.length_cons, width]
      omega
    · obtain ⟨last, found, next_eq, lacking⟩ := inductionHypothesis ends
      refine ⟨last, ?_, ?_, ?_⟩
      · rw [List.getLast?_cons, found, Option.getD_some]
      · omega
      · rw [List.drop_eq_nil_iff] at ends
        simp only [List.length_drop] at lacking
        simp only [List.length_cons, width]
        omega

end Decoding

namespace Bytecode

/-- The instructions of a bytecode partition its bytes. -/
theorem partitions_instructions (code : Bytecode) : Partitions code.instructions code.bytes where
  joined := flatMap_bytes_decodeFrom 0 0 code.bytes
  numbered number instruction found := by
    have counted := index_of_getElem?_decodeFrom found
    omega
  first instruction found := pc_of_head_decodeFrom found
  adjoining number instruction following found foundNext :=
    pc_of_getElem?_decodeFrom_succ found foundNext
  whole instruction mem := isWhole_of_mem_dropLast_decodeFrom mem
  cut instruction mem := isCutFrom_of_mem_decodeFrom List.drop_zero mem

/-- The byte at a position is the opcode of its owner at the start of that, and an operand byte
behind it. -/
theorem byte_of_owns {code : Bytecode} {instruction : Instruction} {pc : Nat} {byte : UInt8}
    (mem : instruction ∈ code.instructions) (owns : instruction.Owns pc)
    (found : code.byteAt? pc = some byte) :
    pc = instruction.pc ∧ byte = instruction.opcode ∨
      instruction.pc < pc ∧ instruction.operand[pc - (instruction.pc + 1)]? = some byte := by
  have cut := code.partitions_instructions.cut instruction mem
  rw [byteAt?] at found
  rcases Nat.eq_or_lt_of_le owns.1 with start | behind
  · refine Or.inl ⟨start.symm, ?_⟩
    rw [← start, cut.opcode_at] at found
    exact (Option.some.inj found).symm
  · refine Or.inr ⟨behind, ?_⟩
    obtain ⟨present, -⟩ := List.getElem?_eq_some_iff.mp found
    have inside : pc < min instruction.next code.bytes.length :=
      Nat.lt_min.mpr ⟨owns.2, present⟩
    rw [cut.operand_eq, List.extract_eq_take_drop, List.getElem?_take_of_lt (by omega),
      List.getElem?_drop, Nat.add_sub_of_le behind]
    exact found

/-- The last instruction ends at the padded length. -/
theorem endsAt_paddedLength (code : Bytecode) :
    EndsAt code.instructions code.length code.paddedLength := by
  obtain ⟨last, found, next_eq, lacking⟩ := exists_last_decodeFrom 0 0 code.nonempty
  have bound := operandLength_le last.opcode
  have covered := length_le_paddedLength code.bytes
  rw [Nat.zero_add] at next_eq
  constructor
  case end_eq =>
    refine ⟨last, found, next_eq, ?_⟩
    simp only [paddedLength, length, Instruction.IsWhole]
    omega
  case length_le => exact covered
  case le_length_add =>
    simp only [paddedLength, length]
    omega

/-- Every program with a byte is accepted as it is, its instructions cut it up without a gap, and
its padded end is the end of the last one. -/
theorem ofBytes_partitioned {bytes : List UInt8} (present : bytes ≠ []) :
    ∃ code, ofBytes bytes = .ok code ∧ code.bytes = bytes ∧
      Partitions code.instructions bytes ∧
      EndsAt code.instructions bytes.length code.paddedLength := by
  refine ⟨⟨bytes, present⟩, ?_, rfl, ?_, ?_⟩
  · rw [ofBytes, dif_neg present]
  · exact partitions_instructions ⟨bytes, present⟩
  · exact endsAt_paddedLength ⟨bytes, present⟩

/-- The second push lacks one of its two operand bytes, and the byte it has would be a push
itself. -/
theorem ofBytes_partitioned_truncated :
    ([0x60, 0x61, 0x61, 0x7F] : List UInt8) ≠ [] ∧
      ∃ code, ofBytes [0x60, 0x61, 0x61, 0x7F] = .ok code ∧
      code.bytes = [0x60, 0x61, 0x61, 0x7F] ∧
        Partitions code.instructions [0x60, 0x61, 0x61, 0x7F] ∧
        EndsAt code.instructions 4 code.paddedLength :=
  ⟨by decide, ofBytes_partitioned (by decide)⟩

end Bytecode

end SourceTrace.Evm

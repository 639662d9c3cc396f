import SourceTrace.Proofs.Evm.Partition
import SourceTrace.Proofs.Lookup.Stages
import SourceTrace.Proofs.Text.Joining

/-!
# The instruction that a lookup names

A lookup tells which instruction its program counter belongs to, by number and by mnemonic. The
number is that of the owner. The mnemonic is that of the byte at the program counter, and such a
byte is an opcode only at the start of an instruction: `explain_names_instruction_iff` says that the
two go together at the start, and that among operand bytes only the opcode of the push itself goes
with its number.
-/

namespace SourceTrace

namespace Evm

/-- The operand bytes of an opcode, by its code alone. -/
theorem operandLength_eq (opcode : UInt8) : operandLength opcode =
    if 0x60 ≤ opcode.toNat ∧ opcode.toNat ≤ 0x7F then opcode.toNat - 0x5F else 0 := by
  simp only [operandLength, operandLength?, UInt8.le_iff_toNat_le, UInt8.reduceToNat]
  split <;> rfl

/-- A push with operand bytes is named by their number. -/
theorem mnemonic_of_push {opcode : UInt8} (push : 0 < operandLength opcode) :
    opcode.toNat = 0x5F + operandLength opcode ∧
      mnemonic opcode = "PUSH" ++ Text.decimal (operandLength opcode) := by
  rw [operandLength_eq] at push ⊢
  split at push
  · rename_i bounds
    rw [if_pos bounds, mnemonic, if_pos bounds]
    exact ⟨by omega, rfl⟩
  · cases push

/-- No other byte is named like a push with operand bytes. -/
theorem mnemonic_of_not_push {byte : UInt8} (other : operandLength byte = 0) :
    mnemonic byte = "PUSH" ++ Text.decimal 0 ∨ ¬"PUSH".toList <+: (mnemonic byte).toList := by
  have listed : ∀ name ∈ "UNKNOWN" :: mnemonics.map Prod.snd,
      name = "PUSH" ++ Text.decimal 0 ∨ ¬"PUSH".toList <+: name.toList := by decide +kernel
  have outside : ¬(0x60 ≤ byte.toNat ∧ byte.toNat ≤ 0x7F) := by
    intro bounds
    rw [operandLength_eq, if_pos bounds] at other
    omega
  simp only [mnemonic, if_neg outside]
  split
  · exact Or.inr (by simp)
  · split
    · exact Or.inr (by simp)
    · split
      · exact Or.inr (by simp)
      · apply listed
        cases found : mnemonics.lookup byte with
        | none => exact List.mem_cons_self
        | some name =>
          obtain ⟨before, after, table, -⟩ := List.lookup_eq_some_iff.mp found
          rw [table]
          simp

/-- Bytes may share a mnemonic, but none shares that of a push with operand bytes. -/
theorem mnemonic_eq_iff_of_push {opcode byte : UInt8} (push : 0 < operandLength opcode) :
    mnemonic byte = mnemonic opcode ↔ byte = opcode := by
  obtain ⟨code_eq, named⟩ := mnemonic_of_push push
  constructor
  · intro same
    rw [named] at same
    rcases Nat.eq_zero_or_pos (operandLength byte) with other | bytePush
    · rcases mnemonic_of_not_push other with bare | apart
      · rw [bare, String.append_right_inj, Text.decimal_inj] at same
        omega
      · rw [same, String.toList_append] at apart
        exact absurd (List.prefix_append _ _) apart
    · obtain ⟨byteCode_eq, byteNamed⟩ := mnemonic_of_push bytePush
      rw [byteNamed, String.append_right_inj, Text.decimal_inj] at same
      rw [← UInt8.toNat_inj, byteCode_eq, code_eq, same]
  · rintro rfl
    rfl

/-- A byte is named like its owner exactly if it is the opcode of it. -/
theorem Bytecode.mnemonic_eq_iff_of_owns {code : Bytecode} {instruction : Instruction} {pc : Nat}
    {byte : UInt8} (mem : instruction ∈ code.instructions) (owns : instruction.Owns pc)
    (found : code.byteAt? pc = some byte) :
    Evm.mnemonic byte = instruction.mnemonic ↔ byte = instruction.opcode := by
  rcases code.byte_of_owns mem owns found with ⟨-, rfl⟩ | ⟨behind, -⟩
  · exact iff_of_true rfl rfl
  · have push : 0 < operandLength instruction.opcode := by
      have inside := owns.2
      rw [width] at inside
      omega
    exact mnemonic_eq_iff_of_push push

end Evm

/-- The step that tells which instruction a program counter belongs to. -/
def instructionStep (pc : Nat) (mnemonic : String) (index : Nat) : Step :=
  ⟨.bytecodeResolved, "pc 0x" ++ Text.hexadecimal pc ++ " (" ++ mnemonic ++ ") is instruction " ++
    Text.decimal index⟩

/-- A step names an instruction of a program: the number that it gives is the place of an
instruction with the mnemonic that it gives. -/
def Step.NamesInstruction (step : Step) (code : Evm.Bytecode) (pc : Nat) : Prop :=
  ∃ index instruction, code.instructions[index]? = some instruction ∧
    step = instructionStep pc instruction.mnemonic index

/-- Mnemonic and number can be told from the text of a step. -/
theorem instructionStep_inj {pc index number : Nat} {mnemonic other : String} :
    instructionStep pc mnemonic index = instructionStep pc other number ↔
      mnemonic = other ∧ index = number := by
  constructor
  · intro same
    have noBlank (value : Nat) : ' ' ∉ (Text.decimal value).toList := by
      intro mem
      cases Text.isDigit_of_mem_decimal mem
    have listed := congrArg (String.toList ∘ Step.detail) same
    have tagged :
        (mnemonic.toList ++ ") is instruction".toList) ++ ' ' :: (Text.decimal index).toList =
        (other.toList ++ ") is instruction".toList) ++ ' ' :: (Text.decimal number).toList := by
      simpa [instructionStep] using listed
    obtain ⟨named, numbered⟩ :=
      Text.append_cons_inj_of_not_mem tagged (noBlank index) (noBlank number)
    rw [String.toList_inj, Text.decimal_inj] at numbered
    exact ⟨String.toList_inj.mp (List.append_cancel_right named), numbered⟩
  · rintro ⟨rfl, rfl⟩
    rfl

/-- A step about an instruction names it exactly if it shows the mnemonic of the instruction. -/
theorem namesInstruction_instructionStep_iff {code : Evm.Bytecode} {pc index : Nat}
    {mnemonic : String}
    {instruction : Evm.Instruction} (found : code.instructions[index]? = some instruction) :
    (instructionStep pc mnemonic index).NamesInstruction code pc ↔
      mnemonic = instruction.mnemonic := by
  constructor
  · rintro ⟨number, other, otherFound, same⟩
    obtain ⟨rfl, rfl⟩ := instructionStep_inj.mp same
    rw [found] at otherFound
    rw [Option.some.inj otherFound]
  · rintro rfl
    exact ⟨index, instruction, found, rfl⟩

namespace Program

variable {program : Program} {address : String} {pc : Nat}

/-- No way through a lookup passes the bytecode a second time. -/
theorem Traces.bytecodeResolved_notMem_tail {stages : List Stage}
    {outcome : Except LookupError Location} (traces : program.Traces pc stages outcome) :
    .bytecodeResolved ∉ stages.tail := by
  cases traces <;> decide

/-- The lookup of a byte first tells which instruction the byte belongs to, and not again. -/
theorem exists_tracePc_of_present (present : pc < program.bytecode.length) :
    ∃ index byte later, program.bytecode.instructionIndex pc = .ok index ∧
      program.bytecode.byteAt? pc = some byte ∧
      (program.tracePc pc).1 = instructionStep pc (Evm.mnemonic byte) index :: later ∧
      ∀ step ∈ later, step.stage ≠ .bytecodeResolved := by
  obtain ⟨index, owned⟩ : ∃ index, program.bytecode.instructionIndex pc = .ok index :=
    ⟨_, Evm.Bytecode.instructionIndex_of_lt_length present⟩
  obtain ⟨byte, found⟩ : ∃ byte, program.bytecode.byteAt? pc = some byte :=
    ⟨_, List.getElem?_eq_getElem present⟩
  have traced : (program.tracePc pc).1 = instructionStep pc (Evm.mnemonic byte) index ::
      (program.traceInstruction pc index).1 := by
    simp only [tracePc, owned, found]
    rfl
  refine ⟨index, byte, _, owned, found, traced, ?_⟩
  intro step mem again
  apply (program.traces_tracePc pc).bytecodeResolved_notMem_tail
  rw [traced, ← again]
  exact List.mem_map_of_mem mem

/-- A lookup records its start, the steps from its program counter on, and its failure if it
fails. -/
theorem exists_traceAddress_of_read (read : Text.readHexNumber? address = some pc) :
    ∃ closing, (program.traceAddress address).1 =
      ⟨.start, "address " ++ address⟩ :: (program.tracePc pc).1 ++ closing ∧
        ∀ step ∈ closing, step.stage = .failed := by
  simp only [traceAddress, read]
  refine ⟨_, rfl, ?_⟩
  cases (program.tracePc pc).2 <;> simp [failure]

/-- The lookup of a byte records one step about the instruction that the byte belongs to. It gives
the number of the owner, and the mnemonic of the byte. Number and mnemonic are those of one
instruction exactly if the byte is the opcode of the owner: so it is where the owner starts, and
behind that just where a push has its own opcode among its operand bytes. -/
theorem explain_names_instruction_iff (read : Text.readHexNumber? address = some pc)
    (present : pc < program.bytecode.length) :
    ∃ index instruction byte earlier later,
      program.bytecode.instructions[index]? = some instruction ∧ instruction.Owns pc ∧
      program.bytecode.byteAt? pc = some byte ∧
      (∀ journal, (program.explain address journal).1 =
        journal.recordAll (earlier ++ instructionStep pc (Evm.mnemonic byte) index :: later)) ∧
      (∀ step ∈ earlier ++ later, step.stage ≠ .bytecodeResolved) ∧
      ((instructionStep pc (Evm.mnemonic byte) index).NamesInstruction program.bytecode pc ↔
        byte = instruction.opcode) ∧
      (pc = instruction.pc ∧ byte = instruction.opcode ∨
        instruction.pc < pc ∧ instruction.operand[pc - (instruction.pc + 1)]? = some byte) := by
  obtain ⟨index, byte, later, owned, found, traced, once⟩ := exists_tracePc_of_present present
  obtain ⟨closing, steps, failed⟩ := @exists_traceAddress_of_read program address pc read
  obtain ⟨instruction, placed, owns⟩ :=
    (program.bytecode.instructionIndex_eq_ok_iff pc index).mp owned
  have mem := List.mem_of_getElem? placed
  refine ⟨index, instruction, byte, [⟨.start, "address " ++ address⟩], later ++ closing,
    placed, owns, found, ?_, ?_, ?_, Evm.Bytecode.byte_of_owns mem owns found⟩
  · intro journal
    rw [explain_eq, steps, traced]
    rfl
  · intro step mem
    simp only [List.mem_append, List.mem_singleton] at mem
    rcases mem with rfl | inLater | inClosing
    · simp
    · exact once step inLater
    · simp [failed step inClosing]
  · rw [namesInstruction_instructionStep_iff placed]
    exact Evm.Bytecode.mnemonic_eq_iff_of_owns mem owns found

/-- A program of some bytes, of whose source nothing is known. -/
def ofCode (bytecode : Evm.Bytecode) : Program :=
  { bytecode, sourceMap := SourceMap.parse "", tree := .null }

/-- A push of its own opcode is named right at its operand byte, too. -/
theorem explain_names_instruction_iff_own_opcode :
    let program := ofCode ⟨[0x60, 0x60], by decide⟩
    Text.readHexNumber? "0x1" = some 1 ∧ 1 < program.bytecode.length ∧
      ∃ step earlier later, step.NamesInstruction program.bytecode 1 ∧ ∀ journal,
        (program.explain "0x1" journal).1 = journal.recordAll (earlier ++ step :: later) := by
  intro program
  have read : Text.readHexNumber? "0x1" = some 1 := by decide +kernel
  have present : 1 < program.bytecode.length := by decide
  obtain
    ⟨index, instruction, byte, earlier, later, placed, owns, found, recorded, -, named, -⟩ :=
    explain_names_instruction_iff read present
  refine ⟨read, present, _, earlier, later, named.mpr ?_, recorded⟩
  have decoded : program.bytecode.instructions = [⟨0, 0, 0x60, [0x60]⟩] := by cbv
  have owner := List.mem_of_getElem? placed
  rw [decoded, List.mem_singleton] at owner
  rw [owner, ← Option.some.inj found]

/-- The operand byte of a push is named by the mnemonic that it would have as an opcode, under the
number of the push: the program has no instruction of that name. -/
theorem not_namesInstruction_operand :
    let program := ofCode ⟨[0x60, 0x80], by decide⟩
    Text.readHexNumber? "0x1" = some 1 ∧ 1 < program.bytecode.length ∧
      program.bytecode.instructions = [⟨0, 0, 0x60, [0x80]⟩] ∧
      (program.explain "0x1" ⟨true, "", []⟩).1.content =
        "Start              address 0x1\n" ++
          "BytecodeResolved   pc 0x1 (DUP1) is instruction 0\n" ++
          "Failed             Incomplete source map entry for instruction 0: missing offset " ++
            "[incomplete-source-map-entry]\n" ∧
      ¬Step.NamesInstruction ⟨.bytecodeResolved, "pc 0x1 (DUP1) is instruction 0"⟩
        program.bytecode 1 := by
  intro program
  have decoded : program.bytecode.instructions = [⟨0, 0, 0x60, [0x80]⟩] := by cbv
  refine ⟨by decide +kernel, by decide, decoded, by decide +kernel, ?_⟩
  change ¬(instructionStep 1 "DUP1" 0).NamesInstruction program.bytecode 1
  rw [namesInstruction_instructionStep_iff (by rw [decoded]; rfl)]
  decide

end Program

end SourceTrace

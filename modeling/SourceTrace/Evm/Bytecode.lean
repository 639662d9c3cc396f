import SourceTrace.Evm.Opcode
import SourceTrace.Lookup.Error

/-!
# Runtime bytecode

The bytes of a program, its instructions, and the instruction that owns a program counter. Operand
bytes belong to their push instruction. A push at the end of the program may lack operand bytes;
they count as zero bytes behind the end, the padding.
-/

namespace SourceTrace.Evm

/-- Bytes of a program; there is at least one. -/
structure Bytecode where
  /-- The bytes that are present. -/
  bytes : List UInt8
  /-- There is at least one byte. -/
  nonempty : bytes ≠ []
  deriving DecidableEq, Repr

/-- One instruction of a program. -/
structure Instruction where
  /-- Position of the opcode. -/
  pc : Nat
  /-- Number of the instruction in the program, from zero. -/
  index : Nat
  /-- The opcode. -/
  opcode : UInt8
  /-- Operand bytes that are present; only at the end of a program fewer than announced. -/
  operand : List UInt8
  deriving DecidableEq, Repr

/-- The mnemonic of an instruction. -/
def Instruction.mnemonic (instruction : Instruction) : String :=
  Evm.mnemonic instruction.opcode

/-- The instructions of bytes, the first of which has the given position and number. -/
def decodeFrom (pc index : Nat) : List UInt8 → List Instruction
  | [] => []
  | opcode :: rest =>
    ⟨pc, index, opcode, rest.take (operandLength opcode)⟩ ::
      decodeFrom (pc + width opcode) (index + 1) (rest.drop (operandLength opcode))
  termination_by bytes => bytes.length
  decreasing_by
    simp only [List.length_drop, List.length_cons]
    omega

/-- The number of bytes with the padding of a push at their end. -/
def paddedLength : List UInt8 → Nat
  | [] => 0
  | opcode :: rest => width opcode + paddedLength (rest.drop (operandLength opcode))
  termination_by bytes => bytes.length
  decreasing_by
    simp only [List.length_drop, List.length_cons]
    omega

/-- The number of opcodes at positions up to `pc`, byte by byte: `pending` operand bytes of the
instruction before are passed over first. -/
def countOpcodes : (pc pending : Nat) → List UInt8 → Nat
  | _, _, [] => 0
  | 0, 0, _ :: _ => 1
  | 0, _ + 1, _ :: _ => 0
  | pc + 1, 0, opcode :: rest => 1 + countOpcodes pc (operandLength opcode) rest
  | pc + 1, pending + 1, _ :: rest => countOpcodes pc pending rest

namespace Bytecode

/-- Bytecode from bytes. -/
def ofBytes (bytes : List UInt8) : Except LookupError Bytecode :=
  if h : bytes = [] then .error (.bytecode .empty) else .ok ⟨bytes, h⟩

/-- Bytecode from a hexadecimal text. -/
def parse (text : String) : Except LookupError Bytecode :=
  if (Text.hexDigits text).isEmpty then .error (.bytecode .empty)
  else match Text.readHex text with
    | .error fault => .error (.bytecode (.notHex fault))
    | .ok bytes => ofBytes bytes

/-- The number of bytes that are present. -/
def length (code : Bytecode) : Nat :=
  code.bytes.length

/-- The number of bytes with the padding. -/
def paddedLength (code : Bytecode) : Nat :=
  Evm.paddedLength code.bytes

/-- The byte at a position. -/
def byteAt? (code : Bytecode) (pc : Nat) : Option UInt8 :=
  code.bytes[pc]?

/-- The instructions of a program in order. -/
def instructions (code : Bytecode) : List Instruction :=
  decodeFrom 0 0 code.bytes

/-- The number of the instruction that owns a position, which may be in the padding. -/
def instructionIndex (code : Bytecode) (pc : Nat) : Except LookupError Nat :=
  if code.paddedLength ≤ pc then .error (.addressOutOfRange pc code.paddedLength)
  else .ok (countOpcodes pc 0 code.bytes - 1)

/-- The number of the instruction that owns a signed program counter. -/
def instructionIndexOfInt (code : Bytecode) (pc : Int) : Except LookupError Nat :=
  if pc < 0 then .error (.negativeProgramCounter pc) else code.instructionIndex pc.toNat

end Bytecode

/-- The first byte of a program is an opcode. -/
theorem countOpcodes_pos (pc : Nat) (opcode : UInt8) (rest : List UInt8) :
    0 < countOpcodes pc 0 (opcode :: rest) := by
  cases pc with
  | zero => simp [countOpcodes]
  | succ pc =>
    simp only [countOpcodes]
    omega

end SourceTrace.Evm

import SourceTrace.Text.Number

/-!
# Opcodes

Only `PUSH1` to `PUSH32` carry operand bytes. Every other byte, assigned or not, is an instruction
of one byte.
-/

namespace SourceTrace.Evm

/-- The number of operand bytes of a push instruction that has any. -/
def operandLength? (opcode : UInt8) : Option Nat :=
  if 0x60 ≤ opcode ∧ opcode ≤ 0x7F then some (opcode.toNat - 0x5F) else none

/-- The number of operand bytes that an opcode announces. -/
def operandLength (opcode : UInt8) : Nat :=
  (operandLength? opcode).getD 0

/-- The number of bytes of the instruction that an opcode starts. -/
def width (opcode : UInt8) : Nat :=
  1 + operandLength opcode

/-- Mnemonics of the instructions that belong to no numbered family. -/
def mnemonics : List (UInt8 × String) := [
  (0x00, "STOP"), (0x01, "ADD"), (0x02, "MUL"), (0x03, "SUB"), (0x04, "DIV"), (0x05, "SDIV"),
  (0x06, "MOD"), (0x07, "SMOD"), (0x08, "ADDMOD"), (0x09, "MULMOD"), (0x0A, "EXP"),
  (0x0B, "SIGNEXTEND"),
  (0x10, "LT"), (0x11, "GT"), (0x12, "SLT"), (0x13, "SGT"), (0x14, "EQ"), (0x15, "ISZERO"),
  (0x16, "AND"), (0x17, "OR"), (0x18, "XOR"), (0x19, "NOT"), (0x1A, "BYTE"), (0x1B, "SHL"),
  (0x1C, "SHR"), (0x1D, "SAR"), (0x20, "SHA3"),
  (0x30, "ADDRESS"), (0x31, "BALANCE"), (0x32, "ORIGIN"), (0x33, "CALLER"), (0x34, "CALLVALUE"),
  (0x35, "CALLDATALOAD"), (0x36, "CALLDATASIZE"), (0x37, "CALLDATACOPY"), (0x38, "CODESIZE"),
  (0x39, "CODECOPY"), (0x3A, "GASPRICE"), (0x3B, "EXTCODESIZE"), (0x3C, "EXTCODECOPY"),
  (0x3D, "RETURNDATASIZE"), (0x3E, "RETURNDATACOPY"), (0x3F, "EXTCODEHASH"),
  (0x40, "BLOCKHASH"), (0x41, "COINBASE"), (0x42, "TIMESTAMP"), (0x43, "NUMBER"),
  (0x44, "PREVRANDAO"), (0x45, "GASLIMIT"), (0x46, "CHAINID"), (0x47, "SELFBALANCE"),
  (0x48, "BASEFEE"), (0x49, "BLOBHASH"), (0x4A, "BLOBBASEFEE"),
  (0x50, "POP"), (0x51, "MLOAD"), (0x52, "MSTORE"), (0x53, "MSTORE8"), (0x54, "SLOAD"),
  (0x55, "SSTORE"), (0x56, "JUMP"), (0x57, "JUMPI"), (0x58, "PC"), (0x59, "MSIZE"), (0x5A, "GAS"),
  (0x5B, "JUMPDEST"), (0x5C, "TLOAD"), (0x5D, "TSTORE"), (0x5E, "MCOPY"), (0x5F, "PUSH0"),
  (0xF0, "CREATE"), (0xF1, "CALL"), (0xF2, "CALLCODE"), (0xF3, "RETURN"), (0xF4, "DELEGATECALL"),
  (0xF5, "CREATE2"), (0xFA, "STATICCALL"), (0xFD, "REVERT"), (0xFE, "INVALID"),
  (0xFF, "SELFDESTRUCT")]

/-- The mnemonic of an opcode. -/
def mnemonic (opcode : UInt8) : String :=
  let code := opcode.toNat
  if 0x60 ≤ code ∧ code ≤ 0x7F then "PUSH" ++ Text.decimal (code - 0x5F)
  else if 0x80 ≤ code ∧ code ≤ 0x8F then "DUP" ++ Text.decimal (code - 0x7F)
  else if 0x90 ≤ code ∧ code ≤ 0x9F then "SWAP" ++ Text.decimal (code - 0x8F)
  else if 0xA0 ≤ code ∧ code ≤ 0xA4 then "LOG" ++ Text.decimal (code - 0xA0)
  else (mnemonics.lookup opcode).getD "UNKNOWN"

/-- No instruction has more than 32 operand bytes. -/
theorem operandLength_le (opcode : UInt8) : operandLength opcode ≤ 32 := by
  simp only [operandLength, operandLength?]
  split
  case isTrue bounds =>
    have high := UInt8.le_iff_toNat_le.mp bounds.2
    simp only [Option.getD_some]
    have : (0x7F : UInt8).toNat = 127 := rfl
    omega
  case isFalse => simp

end SourceTrace.Evm

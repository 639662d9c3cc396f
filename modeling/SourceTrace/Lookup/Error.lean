import SourceTrace.SourceMap.Basic
import SourceTrace.Text.Hex
import SourceTrace.Text.Quoted

/-!
# Lookup errors

The causes for which a program counter has no source location, each with what is needed to tell what
went wrong.
-/

namespace SourceTrace

/-- Why a text is no bytecode. -/
inductive BytecodeFault where
  /-- There is no byte. -/
  | empty
  /-- The text is no hexadecimal byte string. -/
  | notHex (fault : Text.HexFault)
  deriving DecidableEq, Repr

/-- The wording of a bytecode fault. -/
def BytecodeFault.message : BytecodeFault → String
  | .empty => "bytecode is empty"
  | .notHex fault => "expected hex string of even length (" ++ fault.message ++ ")"

/-- Why a program counter has no source location. -/
inductive LookupError where
  /-- The address is no hexadecimal number. -/
  | invalidAddress (address : String)
  /-- The program counter is negative. -/
  | negativeProgramCounter (pc : Int)
  /-- The bytecode cannot be read. -/
  | bytecode (fault : BytecodeFault)
  /-- The program counter is at or past the padded end of the bytecode. -/
  | addressOutOfRange (pc paddedLength : Nat)
  /-- The program counter is in the padding of the last instruction. -/
  | addressNotFound (pc length : Nat)
  /-- The source map has too few entries. -/
  | sourceMapIndexOutOfRange (index entries : Nat)
  /-- A mandatory field was never given. -/
  | incompleteSourceMapEntry (index : Nat) (field : SourceMap.Field)
  /-- A field has a value that it cannot have. -/
  | invalidSourceMapEntry (index : Nat) (field : SourceMap.Field) (value : String)
  /-- A text is no source range. -/
  | invalidSourceRange (source : String)
  /-- The instruction belongs to code that the compiler made up. -/
  | noAssociatedSource (index : Nat)
  /-- No node of the syntax tree covers the source range. -/
  | noContainingNode (offset length : UInt64) (fileId : Int64)
  /-- There is neither literal text nor text made from the syntax tree. -/
  | missingLiteralSource (fileId : Int64)
  deriving DecidableEq, Repr

namespace LookupError

/-- The name of the kind of an error, for output that programs read. -/
def kind : LookupError → String
  | invalidAddress _ => "invalid-address"
  | negativeProgramCounter _ => "negative-program-counter"
  | bytecode _ => "bytecode-decode-error"
  | addressOutOfRange _ _ => "address-out-of-range"
  | addressNotFound _ _ => "address-not-found"
  | sourceMapIndexOutOfRange _ _ => "source-map-index-out-of-range"
  | incompleteSourceMapEntry _ _ => "incomplete-source-map-entry"
  | invalidSourceMapEntry _ _ _ => "invalid-source-map-entry"
  | invalidSourceRange _ => "invalid-source-range"
  | noAssociatedSource _ => "no-associated-source"
  | noContainingNode _ _ _ => "no-containing-ast-node"
  | missingLiteralSource _ => "missing-literal-source"

/-- The wording of an error. -/
def message : LookupError → String
  | invalidAddress address =>
    "Invalid address " ++ Text.quote address ++ ": expected a hex number with optional 0x prefix"
  | negativeProgramCounter pc =>
    "Program counter must not be negative (got " ++ Text.signedDecimal pc ++ ")"
  | bytecode fault => "Invalid bytecode: " ++ fault.message
  | addressOutOfRange pc paddedLength =>
    "PC 0x" ++ Text.hexadecimal pc ++ " is out of range: padded bytecode length is " ++
      Text.decimal paddedLength ++ " bytes"
  | addressNotFound pc length =>
    "Could not find address 0x" ++ Text.hexadecimal pc ++ " in runtime bytecode of " ++
      Text.decimal length ++ " bytes"
  | sourceMapIndexOutOfRange index entries =>
    "Invalid instruction index " ++ Text.decimal index ++ ": source map contains " ++
      Text.decimal entries ++ " entries"
  | incompleteSourceMapEntry index field =>
    "Incomplete source map entry for instruction " ++ Text.decimal index ++ ": missing " ++
      field.name
  | invalidSourceMapEntry index field value =>
    "Invalid source map entry " ++ Text.decimal index ++ ": field " ++ field.name ++
      " has value " ++ Text.quote value
  | invalidSourceRange source =>
    "Invalid source range " ++ Text.quote source ++ ": expected offset:length:file_id"
  | noAssociatedSource index =>
    "Instruction " ++ Text.decimal index ++
      " has no associated source file (compiler-generated code)"
  | noContainingNode offset length fileId =>
    "No AST node contains source location " ++ Text.decimal offset.toNat ++ ":" ++
      Text.decimal length.toNat ++ ":" ++ Text.signedDecimal fileId.toInt
  | missingLiteralSource fileId =>
    "No source text available for file " ++ Text.signedDecimal fileId.toInt ++
      " and the AST node could not be reconstructed"

end LookupError

end SourceTrace

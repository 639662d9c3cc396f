import SourceTrace.SourceMap.Resolve

/-!
# Source locations

What a lookup finds: the code behind a program counter, where it stands, and how it was found.
-/

namespace SourceTrace

/-- The source location of a program counter. -/
structure Location where
  /-- Path of the file, or its number if the path is not known. -/
  file : String
  /-- Source text. -/
  code : String
  /-- Line on which the text starts; zero if the text was made from the syntax tree. -/
  line : Nat
  /-- The program counter. -/
  pc : Nat
  /-- Number of its instruction. -/
  instructionIndex : Nat
  /-- Source map entry of the instruction. -/
  entry : SourceMap.Entry
  /-- Whether the text was made from the syntax tree. -/
  reconstructed : Bool
  deriving DecidableEq, Repr

/-- A location as one line: file, line and code. -/
def Location.render (location : Location) : String :=
  location.file ++ ":" ++ Text.decimal location.line ++ ":" ++ location.code

end SourceTrace

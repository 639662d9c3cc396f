import SourceTrace.Text.Blank
import SourceTrace.Text.Number

/-!
# Compressed source maps

A source map has one entry per instruction, with semicolons between them. An entry has up to five
fields with colons between them; a field that is empty or left out takes the value it had in the
entry before.
-/

namespace SourceTrace

/-- How an instruction takes part in calls. -/
inductive Jump where
  /-- A jump into a function. -/
  | into
  /-- A return from a function. -/
  | out
  /-- Any other instruction. -/
  | regular
  deriving DecidableEq, Repr

/-- The letter of a jump. -/
def Jump.letter : Jump → String
  | .into => "i"
  | .out => "o"
  | .regular => "-"

/-- The jump with a letter. -/
def Jump.ofLetter? (text : String) : Option Jump :=
  if text = "i" then some .into
  else if text = "o" then some .out
  else if text = "-" then some .regular
  else none

/-- Each jump is read back from its letter. -/
theorem Jump.ofLetter?_letter (jump : Jump) : Jump.ofLetter? jump.letter = some jump := by
  cases jump <;> decide

namespace SourceMap

/-- The fields of an entry, in the order in which they are written. -/
inductive Field where
  /-- Start of the source range in bytes. -/
  | offset
  /-- Length of the source range in bytes. -/
  | length
  /-- Number of the source file. -/
  | fileId
  /-- Kind of jump. -/
  | jump
  /-- Modifier depth. -/
  | modifiers
  deriving DecidableEq, Repr

/-- The name of a field in messages. -/
def Field.name : Field → String
  | .offset => "offset"
  | .length => "length"
  | .fileId => "file_id"
  | .jump => "jump"
  | .modifiers => "modifiers"

/-- An entry with its inherited fields filled in. Code without a source file has a negative file
number, so the three numbers are signed. -/
structure Entry where
  /-- Start of the source range in bytes. -/
  offset : Int64
  /-- Length of the source range in bytes. -/
  length : Int64
  /-- Number of the source file. -/
  fileId : Int64
  /-- Kind of jump, if any entry so far gave one. -/
  jump : Option Jump
  /-- Modifier depth, if any entry so far gave one. -/
  modifiers : Option UInt64
  deriving DecidableEq, Repr

/-- Whether an entry belongs to code that the compiler made up. -/
def Entry.isGenerated (entry : Entry) : Bool :=
  entry.fileId < 0

/-- An entry as text; a question mark stands for a field without value. -/
def Entry.render (entry : Entry) : String :=
  ":".intercalate [
    Text.signedDecimal entry.offset.toInt,
    Text.signedDecimal entry.length.toInt,
    Text.signedDecimal entry.fileId.toInt,
    (entry.jump.map Jump.letter).getD "?",
    (entry.modifiers.map fun depth => Text.decimal depth.toNat).getD "?"]

end SourceMap

/-- A source map, split into entries that are still compressed. -/
structure SourceMap where
  /-- Entries in the order of the instructions. -/
  entries : List String
  deriving DecidableEq, Repr

/-- Splits a source map into its entries. Blank margins are removed; even an empty text has one
entry. -/
def SourceMap.parse (text : String) : SourceMap :=
  ⟨((Text.trim text).toList.splitOn ';').map String.ofList⟩

/-- The number of entries. -/
def SourceMap.size (map : SourceMap) : Nat :=
  map.entries.length

/-- Whether there are no entries. -/
def SourceMap.isEmpty (map : SourceMap) : Bool :=
  map.entries.isEmpty

end SourceTrace

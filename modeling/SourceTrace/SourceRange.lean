import SourceTrace.Lookup.Error

/-!
# Source ranges

A range of bytes in a numbered source file, written `offset:length:file`.
-/

namespace SourceTrace

/-- A range of bytes in a source file. -/
structure SourceRange where
  /-- First byte of the range. -/
  offset : UInt64
  /-- Number of bytes. -/
  length : UInt64
  /-- Number of the source file. -/
  fileId : Int64
  deriving DecidableEq, Repr

namespace SourceRange

/-- The position after the last byte, if it fits into 64 bits. -/
def end? (range : SourceRange) : Option UInt64 :=
  if range.offset.toNat + range.length.toNat < UInt64.size then some (range.offset + range.length)
  else none

/-- The range with one byte where it has none. -/
def widened (range : SourceRange) : SourceRange :=
  { range with length := if range.length = 0 then 1 else range.length }

/-- Whether a range covers another one in the same file. An empty range counts as one byte wide, so
that it is covered by what starts at it; a range whose end does not fit into 64 bits neither covers
nor is covered. -/
def contains (outer inner : SourceRange) : Bool :=
  match outer.end?, inner.widened.end? with
  | some outerEnd, some innerEnd =>
    outer.fileId = inner.fileId && outer.offset ≤ inner.offset && innerEnd ≤ outerEnd
  | _, _ => false

/-- A range as text. -/
def render (range : SourceRange) : String :=
  Text.decimal range.offset.toNat ++ ":" ++ Text.decimal range.length.toNat ++ ":" ++
    Text.signedDecimal range.fileId.toInt

/-- The range that three fields spell. -/
def ofFields? (offset length fileId : String) : Option SourceRange :=
  match Text.readUnsigned? offset, Text.readUnsigned? length, Text.readSigned? fileId with
  | some offset, some length, some fileId => some ⟨offset, length, fileId⟩
  | _, _, _ => none

/-- Reads a range: exactly three fields, each an integer within its bounds. -/
def parse (text : String) : Except LookupError SourceRange :=
  let range? := match (text.toList.splitOn ':').map String.ofList with
    | [offset, length, fileId] => ofFields? offset length fileId
    | _ => none
  match range? with
  | some range => .ok range
  | none => .error (.invalidSourceRange text)

/-- Only a range in the same file is covered. -/
theorem fileId_eq_of_contains {outer inner : SourceRange} (h : outer.contains inner = true) :
    outer.fileId = inner.fileId := by
  simp only [contains] at h
  split at h
  · simp only [Bool.and_eq_true, decide_eq_true_eq] at h
    exact h.1.1
  · cases h

end SourceRange

end SourceTrace

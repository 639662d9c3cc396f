import SourceTrace.Text.Utf8

/-!
# Line index

The start offsets of the lines of a text in ascending order. The line of an offset is found by
binary search.
-/

namespace SourceTrace

/-- The code of the line feed. -/
def lineFeed : UInt8 := 0x0A

/-- Start offsets of lines. -/
structure LineIndex where
  /-- Start offsets in ascending order. -/
  starts : Array Nat
  deriving DecidableEq, Repr

namespace LineIndex

/-- The offsets right after the line feeds of bytes, the first of which has the given offset. -/
def startsFrom (offset : Nat) : List UInt8 → List Nat
  | [] => []
  | byte :: rest =>
    if byte = lineFeed then (offset + 1) :: startsFrom (offset + 1) rest
    else startsFrom (offset + 1) rest

/-- The index of a text. The first line starts at offset zero. -/
def ofText (text : String) : LineIndex :=
  ⟨(0 :: startsFrom 0 (Text.bytes text)).toArray⟩

/-- The number of lines. -/
def count (index : LineIndex) : Nat :=
  index.starts.size

/-- The first position between `low` and `high` whose entry exceeds a bound, or `high` if there is
none; entries are in ascending order. -/
def search (entries : Array Nat) (bound low high : Nat) : Nat :=
  if h : low < high then
    let middle := low + (high - low) / 2
    if (entries[middle]?).any (· ≤ bound) then search entries bound (middle + 1) high
    else search entries bound low middle
  else low
  termination_by high - low
  decreasing_by all_goals omega

/-- The line of an offset, from one: the number of lines that start at or before it. -/
def lineOf (index : LineIndex) (offset : Nat) : Nat :=
  search index.starts offset 0 index.starts.size

end LineIndex

end SourceTrace

/-!
# Lines

A line ends at a line feed, together with one carriage return right before it. What follows the last
line feed is a line only if it is not empty.
-/

namespace SourceTrace.Text

/-- Characters without one carriage return at their end. -/
def dropReturn (chars : List Char) : List Char :=
  if chars.getLast? = some '\r' then chars.dropLast else chars

/-- The lines of a text given as characters: pieces that were ended by a line feed lose one carriage
return, and an empty last piece is no line. -/
def lineChars (chars : List Char) : List (List Char) :=
  let pieces := chars.splitOn '\n'
  pieces.dropLast.map dropReturn ++ pieces.getLast?.toList.filter (fun piece => !piece.isEmpty)

/-- The lines of a text. -/
def lines (text : String) : List String :=
  (lineChars text.toList).map String.ofList

/-- Each line of a text behind `width` spaces, with line feeds only between the lines. -/
def indent (width : Nat) (text : String) : String :=
  "\n".intercalate ((lines text).map fun line => String.ofList (List.replicate width ' ') ++ line)

/-- At most `limit` characters of a text; a cut is marked by three dots, which count as far as the
limit leaves room for them. -/
def truncate (limit : Nat) (text : String) : String :=
  if text.length ≤ limit then text
  else String.ofList (text.toList.take (limit - 3)) ++ "..."

/-- Text followed by as many spaces as it lacks to `width` characters. -/
def padEnd (width : Nat) (text : String) : String :=
  text ++ String.ofList (List.replicate (width - text.length) ' ')

end SourceTrace.Text

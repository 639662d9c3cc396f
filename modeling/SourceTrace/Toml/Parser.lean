import SourceTrace.Toml.Scalar
import SourceTrace.Toml.Text
import SourceTrace.Toml.Tree

/-!
# Reading TOML

Readers of values and of whole documents. A document is a sequence of headers and assignments, each
on a line of its own.
-/

namespace SourceTrace.Toml

/-- How many arrays and tables may be written inside one another, and how many parts a key may
have. -/
def maxDepth : Nat := 79

/-- Characters after a comment, if one starts here; a comment with control characters is
malformed. -/
def dropComment? : List Char → Option (List Char)
  | '#' :: rest =>
    match rest.dropWhile isTextChar with
    | [] => some []
    | '\n' :: after => some ('\n' :: after)
    | '\r' :: '\n' :: after => some ('\n' :: after)
    | _ => none
  | chars => some chars

/-- Characters after blanks, line ends and comments. The first argument bounds their number. -/
def dropFiller? : Nat → List Char → Option (List Char)
  | 0, chars => some chars
  | steps + 1, chars =>
    match chars.dropWhile isSpace with
    | '\n' :: rest => dropFiller? steps rest
    | '\r' :: '\n' :: rest => dropFiller? steps rest
    | '#' :: rest => (dropComment? ('#' :: rest)).bind (dropFiller? steps)
    | rest => some rest

mutual

/-- Reads a value inside of which at most `depth` arrays and tables are nested. The first argument
bounds the number of steps. -/
def readValue? : Nat → Nat → List Char → Option (Value × List Char)
  | 0, _, _ => none
  | steps + 1, depth, chars =>
    match chars with
    | '"' :: _ => (readText? chars).map fun (text, rest) => (.string text, rest)
    | '\'' :: _ => (readText? chars).map fun (text, rest) => (.string text, rest)
    | '[' :: rest =>
      match depth with
      | 0 => none
      | depth + 1 => (readItems? steps depth rest).map fun (items, rest) => (.array items, rest)
    | '\x7b' :: rest =>
      match depth with
      | 0 => none
      | depth + 1 =>
        match rest.dropWhile isSpace with
        | '\x7d' :: rest => some (.table [], rest)
        | rest => (readPairs? steps depth [] rest).map fun (entries, rest) =>
            (.table (Item.entriesToValues entries), rest)
    | chars => readScalar? chars

/-- Reads the items of an array up to and with its closing bracket. A comma may follow the last
one. -/
def readItems? : Nat → Nat → List Char → Option (List Value × List Char)
  | 0, _, _ => none
  | steps + 1, depth, chars =>
    match dropFiller? chars.length chars with
    | none => none
    | some (']' :: rest) => some ([], rest)
    | some start =>
      match readValue? steps depth start with
      | none => none
      | some (item, rest) =>
        match dropFiller? rest.length rest with
        | some (']' :: rest) => some ([item], rest)
        | some (',' :: rest) =>
          (readItems? steps depth rest).map fun (items, rest) => (item :: items, rest)
        | _ => none

/-- Reads the pairs of an inline table up to and with its closing brace; all stand on one line. -/
def readPairs? : Nat → Nat → Entries → List Char → Option (Entries × List Char)
  | 0, _, _, _ => none
  | steps + 1, depth, entries, chars =>
    match readKey? maxDepth chars with
    | some (path, '=' :: rest) =>
      match readValue? steps depth (rest.dropWhile isSpace) with
      | none => none
      | some (value, rest) =>
        match Entries.assign path value entries, rest.dropWhile isSpace with
        | some entries, '\x7d' :: rest => some (entries, rest)
        | some entries, ',' :: rest => readPairs? steps depth entries rest
        | _, _ => none
    | _ => none

end

/-- Characters after the end of the line; only blanks and a comment may come before it. -/
def dropLine? (chars : List Char) : Option (List Char) :=
  match dropComment? (chars.dropWhile isSpace) with
  | some [] => some []
  | some ('\n' :: rest) => some rest
  | some ('\r' :: '\n' :: rest) => some rest
  | _ => none

/-- A document while it is read: its tables so far, and the path of the header that is in force. -/
structure Reading where
  /-- Tables so far. -/
  root : Entries := []
  /-- Path of the header. -/
  header : List String := []
  deriving Inhabited

/-- Reads the rest of a header after its opening brackets. -/
def readHeader? (chars : List Char) : Option (List String × List Char) :=
  readKey? maxDepth chars

/-- Reads a header or an assignment, up to the end of its line. -/
def Reading.readLine? (reading : Reading) (chars : List Char) : Option (Reading × List Char) :=
  match chars with
  | '[' :: '[' :: rest =>
    match readHeader? rest with
    | some (path, ']' :: ']' :: rest) =>
      match Entries.openElement path reading.root, dropLine? rest with
      | some root, some rest => some (⟨root, path⟩, rest)
      | _, _ => none
    | _ => none
  | '[' :: rest =>
    match readHeader? rest with
    | some (path, ']' :: rest) =>
      match Entries.openTable path reading.root, dropLine? rest with
      | some root, some rest => some (⟨root, path⟩, rest)
      | _, _ => none
    | _ => none
  | chars =>
    match readKey? maxDepth chars with
    | some (path, '=' :: rest) =>
      match readValue? (2 * rest.length + 2) maxDepth (rest.dropWhile isSpace) with
      | none => none
      | some (value, rest) =>
        match Entries.assignIn reading.header path value reading.root, dropLine? rest with
        | some root, some rest => some (⟨root, reading.header⟩, rest)
        | _, _ => none
    | _ => none

/-- Reads lines until the document ends. The first argument bounds their number. -/
def Reading.readLines? : Nat → Reading → List Char → Option Reading
  | 0, reading, chars => if chars.isEmpty then some reading else none
  | steps + 1, reading, chars =>
    match dropFiller? chars.length chars with
    | none => none
    | some [] => some reading
    | some start =>
      (reading.readLine? start).bind fun (reading, rest) => Reading.readLines? steps reading rest

/-- Characters without a byte order mark at their start. -/
def dropMark : List Char → List Char
  | '\uFEFF' :: rest => rest
  | chars => chars

/-- The entries of the root table of a document. -/
def parse? (text : String) : Option (List (String × Value)) :=
  let chars := dropMark text.toList
  (Reading.readLines? (chars.length + 1) {} chars).map fun reading =>
    Item.entriesToValues reading.root

end SourceTrace.Toml

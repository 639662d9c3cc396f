import SourceTrace.Json.Draft
import SourceTrace.Json.Number

/-!
# Reading JSON

A recursive reader of documents. Each reader takes the characters from its position on and gives
back what it read with the characters that follow.
-/

namespace SourceTrace.Json

/-- Characters without the white space that JSON allows between tokens. -/
def dropSpace (chars : List Char) : List Char :=
  chars.dropWhile fun c => c = ' ' || c = '\t' || c = '\n' || c = '\r'

/-- A piece of a text: a character, or the 16 bit unit that an escape gives. -/
inductive Piece where
  /-- A character that stands for itself or has a short escape. -/
  | char (c : Char)
  /-- A unit given by four hexadecimal digits. -/
  | unit (code : Nat)
  deriving Repr

/-- The character behind the short escape with this letter. -/
def shortEscape? : Char → Option Char
  | '"' => some '"'
  | '\\' => some '\\'
  | '/' => some '/'
  | 'b' => some '\x08'
  | 'f' => some '\x0c'
  | 'n' => some '\n'
  | 'r' => some '\r'
  | 't' => some '\t'
  | _ => none

/-- Reads the rest of a text after its opening quote, up to and with the closing one. -/
def readPieces : List Char → Option (List Piece × List Char)
  | [] => none
  | '"' :: rest => some ([], rest)
  | '\\' :: 'u' :: a :: b :: c :: d :: rest =>
    match Text.readNumeral? Text.hexDigit? 16 [a, b, c, d] with
    | some code => (readPieces rest).map fun (pieces, after) => (.unit code :: pieces, after)
    | none => none
  | '\\' :: letter :: rest =>
    match shortEscape? letter with
    | some c => (readPieces rest).map fun (pieces, after) => (.char c :: pieces, after)
    | none => none
  | c :: rest =>
    if c.toNat < 0x20 || c = '\\' then none
    else (readPieces rest).map fun (pieces, after) => (.char c :: pieces, after)

/-- Whether a unit is the first half of a pair. -/
def isHighHalf (code : Nat) : Bool := 0xD800 ≤ code && code < 0xDC00

/-- Whether a unit is the second half of a pair. -/
def isLowHalf (code : Nat) : Bool := 0xDC00 ≤ code && code < 0xE000

/-- Joins the halves of pairs; a half on its own has no character. -/
def joinPieces : List Piece → Option (List Char)
  | [] => some []
  | .char c :: rest => (joinPieces rest).map (c :: ·)
  | .unit high :: .unit low :: rest =>
    if isHighHalf high then
      if isLowHalf low then
        (joinPieces rest).map
          (Char.ofNat (0x10000 + (high - 0xD800) * 0x400 + (low - 0xDC00)) :: ·)
      else none
    else if isLowHalf high then none
    else (joinPieces (.unit low :: rest)).map (Char.ofNat high :: ·)
  | .unit code :: rest =>
    if isHighHalf code || isLowHalf code then none
    else (joinPieces rest).map (Char.ofNat code :: ·)

/-- Reads a text after its opening quote. -/
def readText (chars : List Char) : Option (Option String × List Char) :=
  (readPieces chars).map fun (pieces, rest) => ((joinPieces pieces).map String.ofList, rest)

/-- Splits off the leading digits. -/
def readDigits (chars : List Char) : List Nat × List Char :=
  let isDigit := fun c => (Text.decimalDigit? c).isSome
  ((chars.takeWhile isDigit).filterMap Text.decimalDigit?, chars.dropWhile isDigit)

/-- Reads a number. No zero may stand in front of other digits, and a point or an exponent mark is
followed by a digit. -/
def readNumeral (chars : List Char) : Option (Numeral × List Char) :=
  let (negative, chars) := match chars with
    | '-' :: rest => (true, rest)
    | _ => (false, chars)
  let (whole, rest) := readDigits chars
  if whole.isEmpty || (whole.head? == some 0 && 1 < whole.length) then none
  else
    let (fraction, rest) := match rest with
      | '.' :: after => let (digits, rest) := readDigits after; (some digits, rest)
      | _ => (none, rest)
    if fraction == some [] then none
    else
      let marked := match rest with
        | 'e' :: after => some after
        | 'E' :: after => some after
        | _ => none
      match marked with
      | none => some (⟨negative, whole, fraction, none⟩, rest)
      | some after =>
        let (sign, after) := match after with
          | '+' :: after => (false, after)
          | '-' :: after => (true, after)
          | _ => (false, after)
        let (digits, rest) := readDigits after
        if digits.isEmpty then none
        else some (⟨negative, whole, fraction, some (sign, Text.ofDigits 10 digits)⟩, rest)

mutual

/-- Reads a value. The first argument bounds the number of steps. -/
def readDraft : Nat → List Char → Option (Draft × List Char)
  | 0, _ => none
  | steps + 1, chars =>
    match dropSpace chars with
    | 'n' :: 'u' :: 'l' :: 'l' :: rest => some (.null, rest)
    | 't' :: 'r' :: 'u' :: 'e' :: rest => some (.bool true, rest)
    | 'f' :: 'a' :: 'l' :: 's' :: 'e' :: rest => some (.bool false, rest)
    | '"' :: rest => (readText rest).map fun (text, rest) => (.str text, rest)
    | '[' :: rest =>
      match dropSpace rest with
      | ']' :: rest => some (.arr [], rest)
      | rest => (readItems steps rest).map fun (items, rest) => (.arr items, rest)
    | '\x7b' :: rest =>
      match dropSpace rest with
      | '\x7d' :: rest => some (.obj [], rest)
      | rest => (readMembers steps rest).map fun (members, rest) => (.obj members, rest)
    | chars => (readNumeral chars).map fun (numeral, rest) => (.num numeral.value?, rest)

/-- Reads the items of an array up to and with its closing bracket. -/
def readItems : Nat → List Char → Option (List Draft × List Char)
  | 0, _ => none
  | steps + 1, chars =>
    match readDraft steps chars with
    | none => none
    | some (item, rest) =>
      match dropSpace rest with
      | ',' :: rest => (readItems steps rest).map fun (items, rest) => (item :: items, rest)
      | ']' :: rest => some ([item], rest)
      | _ => none

/-- Reads the members of an object up to and with its closing brace. -/
def readMembers : Nat → List Char → Option (List (Option String × Draft) × List Char)
  | 0, _ => none
  | steps + 1, chars =>
    match dropSpace chars with
    | '"' :: rest =>
      match readText rest with
      | none => none
      | some (key, rest) =>
        match dropSpace rest with
        | ':' :: rest =>
          match readDraft steps rest with
          | none => none
          | some (value, rest) =>
            match dropSpace rest with
            | ',' :: rest =>
              (readMembers steps rest).map fun (members, rest) => ((key, value) :: members, rest)
            | '\x7d' :: rest => some ([(key, value)], rest)
            | _ => none
        | _ => none
    | _ => none

end

/-- Reads a whole document as a draft. Every step but those into an item consumes a character, so
twice the length bounds their number. -/
def Draft.parse? (text : String) : Option Draft :=
  match readDraft (2 * text.length + 2) text.toList with
  | some (draft, rest) => if (dropSpace rest).isEmpty then some draft else none
  | none => none

/-- Reads a whole document. -/
def parse? (text : String) : Option Json :=
  (Draft.parse? text).bind Draft.value?

end SourceTrace.Json

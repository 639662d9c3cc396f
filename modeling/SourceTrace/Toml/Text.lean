import SourceTrace.Text.Number

/-!
# TOML texts and keys

Texts in double quotes know escapes, those in single quotes do not. Three quotes enclose a text that
may run over several lines; a line feed right after the opening quotes does not count, and up to two
quotes may stand before the closing ones.
-/

namespace SourceTrace.Toml

/-- Whether a character may stand in a text or a comment: no control character but the tab. -/
def isTextChar (c : Char) : Bool :=
  c = '\t' || (0x20 ≤ c.toNat && c.toNat != 0x7F)

/-- Whether a character is a space or a tab. -/
def isSpace (c : Char) : Bool :=
  c = ' ' || c = '\t'

/-- The character behind the short escape with this letter. -/
def shortEscape? : Char → Option Char
  | '"' => some '"'
  | '\\' => some '\\'
  | 'b' => some '\x08'
  | 'f' => some '\x0c'
  | 'n' => some '\n'
  | 'r' => some '\r'
  | 't' => some '\t'
  | _ => none

/-- The character with a hexadecimal code, which is no surrogate. -/
def codeEscape? (digits : List Char) : Option Char :=
  (Text.readNumeral? Text.hexDigit? 16 digits).bind fun code =>
    if code.isValidChar then some (Char.ofNat code) else none

/-- Puts a character in front of a text that was read. -/
def consChar (c : Option Char) (text : Option (List Char × List Char)) :
    Option (List Char × List Char) :=
  match c, text with
  | some c, some (chars, rest) => some (c :: chars, rest)
  | _, _ => none

/-- Reads the rest of a text in double quotes. -/
def readBasic : List Char → Option (List Char × List Char)
  | [] => none
  | '"' :: rest => some ([], rest)
  | '\\' :: 'u' :: a :: b :: c :: d :: rest => consChar (codeEscape? [a, b, c, d]) (readBasic rest)
  | '\\' :: 'U' :: a :: b :: c :: d :: e :: f :: g :: h :: rest =>
    consChar (codeEscape? [a, b, c, d, e, f, g, h]) (readBasic rest)
  | '\\' :: letter :: rest => consChar (shortEscape? letter) (readBasic rest)
  | c :: rest => if isTextChar c && c != '\\' then consChar (some c) (readBasic rest) else none

/-- Reads the rest of a text in single quotes. -/
def readLiteral : List Char → Option (List Char × List Char)
  | [] => none
  | '\'' :: rest => some ([], rest)
  | c :: rest => if isTextChar c then consChar (some c) (readLiteral rest) else none

/-- Whether a line ends here, blanks aside. -/
def endsLine (chars : List Char) : Bool :=
  match chars.dropWhile isSpace with
  | '\n' :: _ => true
  | '\r' :: '\n' :: _ => true
  | _ => false

/-- Reads the rest of a text in three double quotes. While `skipping`, after a backslash at the end
of a line, blanks and line ends are passed over. -/
def readLongBasic (skipping : Bool) : List Char → Option (List Char × List Char)
  | [] => none
  | '"' :: '"' :: '"' :: '"' :: '"' :: rest => some (['"', '"'], rest)
  | '"' :: '"' :: '"' :: '"' :: rest => some (['"'], rest)
  | '"' :: '"' :: '"' :: rest => some ([], rest)
  | '\r' :: '\n' :: rest =>
    if skipping then readLongBasic true rest else consChar (some '\n') (readLongBasic false rest)
  | '\\' :: 'u' :: a :: b :: c :: d :: rest =>
    consChar (codeEscape? [a, b, c, d]) (readLongBasic false rest)
  | '\\' :: 'U' :: a :: b :: c :: d :: e :: f :: g :: h :: rest =>
    consChar (codeEscape? [a, b, c, d, e, f, g, h]) (readLongBasic false rest)
  | '\\' :: letter :: rest =>
    match shortEscape? letter with
    | some c => consChar (some c) (readLongBasic false rest)
    | none => if endsLine (letter :: rest) then readLongBasic true rest else none
  | c :: rest =>
    if skipping && (isSpace c || c = '\n') then readLongBasic true rest
    else if c = '\n' || (isTextChar c && c != '\\') then
      consChar (some c) (readLongBasic false rest)
    else none

/-- Reads the rest of a text in three single quotes. -/
def readLongLiteral : List Char → Option (List Char × List Char)
  | [] => none
  | '\'' :: '\'' :: '\'' :: '\'' :: '\'' :: rest => some (['\'', '\''], rest)
  | '\'' :: '\'' :: '\'' :: '\'' :: rest => some (['\''], rest)
  | '\'' :: '\'' :: '\'' :: rest => some ([], rest)
  | '\r' :: '\n' :: rest => consChar (some '\n') (readLongLiteral rest)
  | c :: rest =>
    if c = '\n' || isTextChar c then consChar (some c) (readLongLiteral rest) else none

/-- Characters without one line end at their start. -/
def dropLineEnd : List Char → List Char
  | '\n' :: rest => rest
  | '\r' :: '\n' :: rest => rest
  | chars => chars

/-- Reads a text of any kind; `none` if none starts here or it is malformed. -/
def readText? (chars : List Char) : Option (String × List Char) :=
  let read := match chars with
    | '"' :: '"' :: '"' :: rest => readLongBasic false (dropLineEnd rest)
    | '\'' :: '\'' :: '\'' :: rest => readLongLiteral (dropLineEnd rest)
    | '"' :: rest => readBasic rest
    | '\'' :: rest => readLiteral rest
    | _ => none
  read.map fun (text, rest) => (String.ofList text, rest)

/-- Whether a character may stand in a key without quotes. -/
def isBareChar (c : Char) : Bool :=
  c.isAlphanum || c = '_' || c = '-'

/-- Reads one part of a key. -/
def readKeyPart? (chars : List Char) : Option (String × List Char) :=
  let quoted := match chars with
    | '"' :: rest => some (readBasic rest)
    | '\'' :: rest => some (readLiteral rest)
    | _ => none
  match quoted with
  | some read => read.map fun (key, rest) => (String.ofList key, rest)
  | none =>
    let bare := chars.takeWhile isBareChar
    if bare.isEmpty then none else some (String.ofList bare, chars.dropWhile isBareChar)

/-- Reads a key, its parts divided by dots. The first argument bounds their number. -/
def readKey? : Nat → List Char → Option (List String × List Char)
  | 0, _ => none
  | parts + 1, chars =>
    match readKeyPart? (chars.dropWhile isSpace) with
    | none => none
    | some (part, rest) =>
      match rest.dropWhile isSpace with
      | '.' :: rest => (readKey? parts rest).map fun (key, rest) => (part :: key, rest)
      | rest => some ([part], rest)

end SourceTrace.Toml

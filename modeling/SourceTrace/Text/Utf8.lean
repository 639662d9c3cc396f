/-!
# Bytes of a text

Texts are addressed by the bytes of their UTF-8 form. Decoding never fails: each longest run of
bytes that starts a character without completing it, and each byte that starts none, becomes one
replacement character.
-/

namespace SourceTrace.Text

/-- The bytes of the UTF-8 form of a list of characters. -/
def encode (chars : List Char) : List UInt8 :=
  chars.flatMap String.utf8EncodeChar

/-- The bytes of the UTF-8 form of a text. -/
def bytes (text : String) : List UInt8 :=
  encode text.toList

/-- The character that stands for bytes which spell none. -/
def replacement : Char := '\uFFFD'

/-- A character whose first bytes were read: how many continuation bytes are still to come after the
next one, the bounds of the next one, and the bits collected so far. -/
structure Pending where
  /-- Continuation bytes that follow the next one. -/
  more : Nat
  /-- Least byte that may come next. -/
  low : UInt8
  /-- Greatest byte that may come next. -/
  high : UInt8
  /-- Bits of the code point read so far. -/
  bits : Nat
  deriving DecidableEq, Repr

/-- What a byte at the start of a character announces. -/
inductive Lead where
  /-- A complete character of one byte. -/
  | single (c : Char)
  /-- The first byte of a longer character. -/
  | first (pending : Pending)
  /-- A byte that starts no character. -/
  | stray
  deriving DecidableEq, Repr

/-- Classifies the first byte of a character. The bounds on the second byte exclude overlong forms,
surrogates and code points above U+10FFFF. -/
def lead (byte : UInt8) : Lead :=
  let code := byte.toNat
  if code < 0x80 then .single (Char.ofNat code)
  else if code < 0xC2 then .stray
  else if code < 0xE0 then .first ⟨0, 0x80, 0xBF, code - 0xC0⟩
  else if code = 0xE0 then .first ⟨1, 0xA0, 0xBF, 0⟩
  else if code = 0xED then .first ⟨1, 0x80, 0x9F, code - 0xE0⟩
  else if code < 0xF0 then .first ⟨1, 0x80, 0xBF, code - 0xE0⟩
  else if code = 0xF0 then .first ⟨2, 0x90, 0xBF, 0⟩
  else if code < 0xF4 then .first ⟨2, 0x80, 0xBF, code - 0xF0⟩
  else if code = 0xF4 then .first ⟨2, 0x80, 0x8F, code - 0xF0⟩
  else .stray

/-- Whether a byte continues a started character. -/
def Pending.accepts (pending : Pending) (byte : UInt8) : Bool :=
  pending.low ≤ byte && byte ≤ pending.high

/-- The bits collected after one more continuation byte. -/
def Pending.extend (pending : Pending) (byte : UInt8) : Nat :=
  pending.bits * 64 + (byte.toNat - 0x80)

mutual

/-- Decodes bytes at the start of a character. -/
def decodeLossy : List UInt8 → List Char
  | [] => []
  | byte :: rest =>
    match lead byte with
    | .single c => c :: decodeLossy rest
    | .first pending => decodeAfter pending rest
    | .stray => replacement :: decodeLossy rest

/-- Decodes bytes inside a started character. A byte that does not continue it ends it and is read
again as a start. -/
def decodeAfter (pending : Pending) : List UInt8 → List Char
  | [] => [replacement]
  | byte :: rest =>
    if pending.accepts byte then
      match pending.more with
      | 0 => Char.ofNat (pending.extend byte) :: decodeLossy rest
      | more + 1 => decodeAfter ⟨more, 0x80, 0xBF, pending.extend byte⟩ rest
    else
      match lead byte with
      | .single c => replacement :: c :: decodeLossy rest
      | .first next => replacement :: decodeAfter next rest
      | .stray => replacement :: replacement :: decodeLossy rest

end

/-- The text that bytes spell, with replacement characters where they spell none. -/
def ofBytesLossy (data : List UInt8) : String :=
  String.ofList (decodeLossy data)

/-- The text that bytes spell, if all of them are well formed. -/
def ofBytes? (data : List UInt8) : Option String :=
  String.fromUTF8? ⟨data.toArray⟩

/-- The bytes at positions `offset` up to `offset + length`, if there are that many. -/
def slice? (data : List UInt8) (offset length : Nat) : Option (List UInt8) :=
  if offset + length ≤ data.length then some ((data.drop offset).take length) else none

end SourceTrace.Text

import SourceTrace.Text.Blank
import SourceTrace.Text.Number
import SourceTrace.Text.Utf8

/-!
# Hexadecimal byte strings

Hex text may carry blank margins and one `0x` marker of either case. Two digits spell a byte, the
high half first.
-/

namespace SourceTrace.Text

/-- Why a text is no hexadecimal byte string. -/
inductive HexFault where
  /-- The digits cannot be paired. -/
  | oddLength
  /-- A byte that is no digit, with its position among the digits. -/
  | badDigit (byte : UInt8) (position : Nat)
  deriving DecidableEq, Repr

/-- The wording of a fault; an offending byte is shown as the character with its code. -/
def HexFault.message : HexFault → String
  | .oddLength => "Odd number of digits"
  | .badDigit byte position =>
    "Invalid character '" ++ String.singleton (Char.ofNat byte.toNat) ++ "' at position " ++
      decimal position

/-- Characters without one leading `0x` or `0X`. -/
def dropHexMarker : List Char → List Char
  | '0' :: 'x' :: rest => rest
  | '0' :: 'X' :: rest => rest
  | chars => chars

/-- A text without one leading `0x` or `0X`. -/
def stripHexMarker (text : String) : String :=
  String.ofList (dropHexMarker text.toList)

/-- The digits of a hex text: blank margins and then the marker are removed. -/
def hexDigits (text : String) : String :=
  stripHexMarker (trim text)

/-- The value of a byte that is the code of a hexadecimal digit. -/
def hexByteDigit? (byte : UInt8) : Option Nat :=
  hexDigit? (Char.ofNat byte.toNat)

/-- Pairs digits from a position on into bytes and reports the first byte that is no digit. -/
def pairDigits (position : Nat) : List UInt8 → Except HexFault (List UInt8)
  | [] => .ok []
  | [_] => .error .oddLength
  | high :: low :: rest =>
    match hexByteDigit? high, hexByteDigit? low with
    | none, _ => .error (.badDigit high position)
    | some _, none => .error (.badDigit low (position + 1))
    | some highValue, some lowValue =>
      match pairDigits (position + 2) rest with
      | .error fault => .error fault
      | .ok tail => .ok (UInt8.ofNat (highValue * 16 + lowValue) :: tail)

/-- The bytes that a hex text spells. An odd number of bytes is reported before any bad digit. -/
def readHex (text : String) : Except HexFault (List UInt8) :=
  let digits := bytes (hexDigits text)
  if digits.length % 2 = 1 then .error .oddLength else pairDigits 0 digits

/-- The number that a hex text spells, below 2^64. -/
def readHexNumber? (text : String) : Option Nat :=
  (readNumeral? hexDigit? 16 (hexDigits text).toList).bind fun value =>
    if value < UInt64.size then some value else none

/-- The two digits of a byte in lower case. -/
def hexOfByte (byte : UInt8) : List Char :=
  fixedDigits 16 2 byte.toNat

/-- Bytes as hexadecimal digits in lower case, without a marker. -/
def hexOfBytes (data : List UInt8) : String :=
  String.ofList (data.flatMap hexOfByte)

end SourceTrace.Text

/-!
# Numerals

Decimal and hexadecimal numerals: the value that digits spell, the digits of a value, and the
reading of machine integers with an optional sign.
-/

namespace SourceTrace.Text

/-- The value of a decimal digit. -/
def decimalDigit? (c : Char) : Option Nat :=
  if '0' ≤ c ∧ c ≤ '9' then some (c.toNat - '0'.toNat) else none

/-- The value of a hexadecimal digit of either case. -/
def hexDigit? (c : Char) : Option Nat :=
  if '0' ≤ c ∧ c ≤ '9' then some (c.toNat - '0'.toNat)
  else if 'a' ≤ c ∧ c ≤ 'f' then some (c.toNat - 'a'.toNat + 10)
  else if 'A' ≤ c ∧ c ≤ 'F' then some (c.toNat - 'A'.toNat + 10)
  else none

/-- The value of digits in a base, most significant digit first. -/
def ofDigits (base : Nat) (digits : List Nat) : Nat :=
  digits.foldl (fun value digit => value * base + digit) 0

/-- The value of a numeral: at least one character, all of them digits. -/
def readNumeral? (digit? : Char → Option Nat) (base : Nat) (chars : List Char) : Option Nat :=
  if chars.isEmpty then none else (chars.mapM digit?).map (ofDigits base)

/-- The value of a decimal numeral. -/
def readNat? (chars : List Char) : Option Nat :=
  readNumeral? decimalDigit? 10 chars

/-- Half the number of 64 bit words: signed words are below it, and at least its negative. -/
abbrev halfWord : Nat := 0x8000000000000000

/-- An unsigned 64 bit integer: an optional plus sign and a decimal numeral within bounds. -/
def readUnsigned? (text : String) : Option UInt64 :=
  let numeral := match text.toList with
    | '+' :: rest => rest
    | chars => chars
  (readNat? numeral).bind fun value =>
    if value < UInt64.size then some (UInt64.ofNat value) else none

/-- A signed 64 bit integer: an optional sign and a decimal numeral within bounds. -/
def readSigned? (text : String) : Option Int64 :=
  match text.toList with
  | '-' :: rest => (readNat? rest).bind fun value =>
      if value ≤ halfWord then some (Int64.ofInt (-value)) else none
  | '+' :: rest => (readNat? rest).bind fun value =>
      if value < halfWord then some (Int64.ofInt value) else none
  | chars => (readNat? chars).bind fun value =>
      if value < halfWord then some (Int64.ofInt value) else none

/-- The decimal numeral of a natural number. -/
def decimal (value : Nat) : String :=
  String.ofList (Nat.toDigits 10 value)

/-- The decimal numeral of an integer, with a minus sign where it is negative. -/
def signedDecimal (value : Int) : String :=
  if value < 0 then "-" ++ decimal value.natAbs else decimal value.natAbs

/-- The hexadecimal numeral of a natural number in lower case. -/
def hexadecimal (value : Nat) : String :=
  String.ofList (Nat.toDigits 16 value)

/-- A numeral of a fixed width in some base, cut at the high end. -/
def fixedDigits (base width value : Nat) : List Char :=
  match width with
  | 0 => []
  | width + 1 => fixedDigits base width (value / base) ++ [Nat.digitChar (value % base)]

end SourceTrace.Text

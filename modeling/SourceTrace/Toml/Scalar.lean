import SourceTrace.Text.Number
import SourceTrace.Toml.Value

/-!
# TOML numbers, dates and truth values

Scalars other than texts are runs of letters, digits and a few signs. A whole run is one scalar.
-/

namespace SourceTrace.Toml

/-- Whether a character may belong to a scalar that is no text. -/
def isScalarChar (c : Char) : Bool :=
  c.isAlphanum || c = '+' || c = '-' || c = '_' || c = '.' || c = ':'

/-- Digits in which single underscores may stand between two digits. -/
def readGrouped? (digit? : Char → Option Nat) : List Char → Option (List Nat)
  | [] => none
  | [c] => (digit? c).map fun digit => [digit]
  | c :: '_' :: rest =>
    match digit? c, readGrouped? digit? rest with
    | some digit, some digits => some (digit :: digits)
    | _, _ => none
  | c :: rest =>
    match digit? c, readGrouped? digit? rest with
    | some digit, some digits => some (digit :: digits)
    | _, _ => none

/-- The value of a digit in a base up to sixteen. -/
def digitBelow? (base : Nat) (c : Char) : Option Nat :=
  (Text.hexDigit? c).filter (· < base)

/-- Splits off an optional sign; `true` stands for minus. -/
def readSign : List Char → Bool × List Char
  | '-' :: rest => (true, rest)
  | '+' :: rest => (false, rest)
  | chars => (false, chars)

/-- Whether digits may stand before a point: no zero in front of other digits. -/
def isPlain (digits : List Nat) : Bool :=
  digits.length == 1 || digits.head? != some 0

/-- An integer within 64 bits. -/
def checkInteger? (value : Int) : Option Value :=
  if -Text.halfWord ≤ value ∧ value < Text.halfWord then some (.integer value) else none

/-- An integer in another base, which takes no sign. -/
def readBased? (base : Nat) (chars : List Char) : Option Value :=
  (readGrouped? (digitBelow? base) chars).bind fun digits =>
    checkInteger? (Text.ofDigits base digits)

/-- An integer. -/
def readInteger? (chars : List Char) : Option Value :=
  match chars with
  | '0' :: 'x' :: rest => readBased? 16 rest
  | '0' :: 'o' :: rest => readBased? 8 rest
  | '0' :: 'b' :: rest => readBased? 2 rest
  | chars =>
    let (negative, chars) := readSign chars
    match readGrouped? Text.decimalDigit? chars with
    | some digits =>
      let value : Int := Text.ofDigits 10 digits
      if isPlain digits then checkInteger? (if negative then -value else value) else none
    | none => none

/-- The double nearest to a decimal. Magnitudes far outside the range are decided by their size
alone. -/
def nearestFloat (digits : List Nat) (exponent : Int) : Float :=
  let significand := Text.ofDigits 10 digits
  let size : Int := (Nat.toDigits 10 significand).length + exponent
  if significand = 0 || size < -400 then 0
  else if 400 < size then 1 / 0
  else if 0 ≤ exponent then Float.ofScientific significand false exponent.toNat
  else Float.ofScientific significand true (-exponent).toNat

/-- The exponent of a floating point number, if the mark is there. -/
def readExponent? : List Char → Option Int
  | [] => some 0
  | mark :: rest =>
    if mark = 'e' || mark = 'E' then
      let (negative, digits) := readSign rest
      (readGrouped? Text.decimalDigit? digits).map fun digits =>
        let value : Int := Text.ofDigits 10 digits
        if negative then -value else value
    else none

/-- A floating point number with a point or an exponent. One that is too great is refused. -/
def readDecimal? (chars : List Char) : Option Value :=
  let (negative, chars) := readSign chars
  let isMantissaChar := fun c : Char => c.isDigit || c = '_'
  let whole := chars.takeWhile isMantissaChar
  let rest := chars.dropWhile isMantissaChar
  let (fraction, rest) := match rest with
    | '.' :: after => (some (after.takeWhile isMantissaChar), after.dropWhile isMantissaChar)
    | _ => (none, rest)
  let fractionDigits := match fraction with
    | some digits => readGrouped? Text.decimalDigit? digits
    | none => if rest.isEmpty then none else some []
  match readGrouped? Text.decimalDigit? whole, fractionDigits, readExponent? rest with
  | some whole, some fraction, some exponent =>
    let magnitude := nearestFloat (whole ++ fraction) (exponent - fraction.length)
    if !isPlain whole || (magnitude.isInf && !negative) then none
    else some (.float (if negative then -magnitude else magnitude))
  | _, _, _ => none

/-- Infinities and the value that is no number. -/
def readSpecial? (chars : List Char) : Option Value :=
  let (negative, chars) := readSign chars
  if chars = "inf".toList then some (.float (if negative then -(1 / 0) else 1 / 0))
  else if chars = "nan".toList then some (.float (0 / 0))
  else none

/-- A number of exactly as many digits as characters are given. -/
def readFixed? (chars : List Char) : Option Nat :=
  Text.readNat? chars

/-- The number of days of a month. -/
def daysIn (year month : Nat) : Nat :=
  let isLeap := year % 4 == 0 && (year % 100 != 0 || year % 400 == 0)
  if month = 2 then (if isLeap then 29 else 28)
  else if month = 4 || month = 6 || month = 9 || month = 11 then 30
  else 31

/-- Splits off a date. -/
def readDate? : List Char → Option (Date × List Char)
  | a :: b :: c :: d :: '-' :: e :: f :: '-' :: g :: h :: rest =>
    match readFixed? [a, b, c, d], readFixed? [e, f], readFixed? [g, h] with
    | some year, some month, some day =>
      if 1 ≤ month ∧ month ≤ 12 ∧ 1 ≤ day ∧ day ≤ daysIn year month then
        some (⟨year, month, day⟩, rest)
      else none
    | _, _, _ => none
  | _ => none

/-- Nanoseconds from the digits of a fraction; those beyond the ninth are cut off. -/
def nanoseconds (digits : List Nat) : Nat :=
  let kept := digits.take 9
  Text.ofDigits 10 kept * Nat.pow 10 (9 - kept.length)

/-- Splits off a time. -/
def readTime? : List Char → Option (Time × List Char)
  | a :: b :: ':' :: c :: d :: ':' :: e :: f :: rest =>
    match readFixed? [a, b], readFixed? [c, d], readFixed? [e, f] with
    | some hour, some minute, some second =>
      if 24 ≤ hour || 60 ≤ minute || 61 ≤ second then none
      else match rest with
        | '.' :: after =>
          let digits := (after.takeWhile Char.isDigit).filterMap Text.decimalDigit?
          if digits.isEmpty then none
          else some (⟨hour, minute, second, nanoseconds digits⟩, after.dropWhile Char.isDigit)
        | rest => some (⟨hour, minute, second, 0⟩, rest)
    | _, _, _ => none
  | _ => none

/-- The offset at the end of a date with a time: `some none` if there is none. -/
def readOffset? : List Char → Option (Option Offset)
  | [] => some none
  | ['Z'] => some (some .zulu)
  | ['z'] => some (some .zulu)
  | [sign, a, b, ':', c, d] =>
    match readFixed? [a, b], readFixed? [c, d] with
    | some hours, some minutes =>
      if 24 ≤ hours || 60 ≤ minutes then none
      else
        let count : Int := hours * 60 + minutes
        if sign = '+' then some (some (.minutes count))
        else if sign = '-' then some (some (.minutes (-count)))
        else none
    | _, _ => none
  | _ => none

/-- A time after a date, with its offset. -/
def readTimeOfDate? (date : Date) (chars : List Char) : Option Value :=
  (readTime? chars).bind fun (time, rest) =>
    (readOffset? rest).map fun offset => .moment ⟨some date, some time, offset⟩

/-- A date, a time, or both. -/
def readMoment? (chars : List Char) : Option Value :=
  match readDate? chars with
  | some (date, []) => some (.moment ⟨some date, none, none⟩)
  | some (date, divider :: rest) =>
    if divider = 'T' || divider = 't' then readTimeOfDate? date rest else none
  | none =>
    match readTime? chars with
    | some (time, []) => some (.moment ⟨none, some time, none⟩)
    | _ => none

/-- The scalar that a run of characters spells. -/
def classify? (chars : List Char) : Option Value :=
  if chars = "true".toList then some (.boolean true)
  else if chars = "false".toList then some (.boolean false)
  else (((readSpecial? chars).orElse fun _ => readMoment? chars).orElse
    fun _ => readInteger? chars).orElse fun _ => readDecimal? chars

/-- Splits off a scalar. Between a date and a time one space may stand in place of the letter. -/
def readScalar? (chars : List Char) : Option (Value × List Char) :=
  let run := chars.takeWhile isScalarChar
  let rest := chars.dropWhile isScalarChar
  match readDate? run, rest with
  | some (date, []), ' ' :: next :: after =>
    if next.isDigit then
      let time := (next :: after).takeWhile isScalarChar
      (readTimeOfDate? date time).map fun value =>
        (value, (next :: after).dropWhile isScalarChar)
    else (classify? run).map fun value => (value, rest)
  | _, _ => (classify? run).map fun value => (value, rest)

end SourceTrace.Toml

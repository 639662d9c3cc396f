import SourceTrace.Decimal.Layout
import SourceTrace.Json.Basic
import SourceTrace.Text.Number

/-!
# JSON numbers

The value of a written number and the text of a value. A number with a fraction or an exponent, and
every number that does not fit into 64 bits, is a double; its significand is the longest run of
leading digits that fits into 64 bits, which is then scaled by one power of ten.
-/

namespace SourceTrace.Json

/-- A number as written: digits before the point, digits after it, and the exponent. -/
structure Numeral where
  /-- Whether a minus sign stands in front. -/
  negative : Bool
  /-- Digits before the point. -/
  whole : List Nat
  /-- Digits after the point, if there is one. -/
  fraction : Option (List Nat)
  /-- Exponent with its sign (`true` for minus), if there is one. -/
  exponent : Option (Bool × Nat)
  deriving Repr

/-- Appends digits to a significand while it fits into 64 bits and gives the digits left over. -/
def appendDigits (significand : Nat) : List Nat → Nat × List Nat
  | [] => (significand, [])
  | digit :: rest =>
    if significand * 10 + digit < UInt64.size then appendDigits (significand * 10 + digit) rest
    else (significand, digit :: rest)

/-- A power of ten as the nearest double. -/
def powerOfTen (exponent : Nat) : Float :=
  Float.ofScientific 1 false exponent

/-- The greatest exponent of ten that is a finite double. -/
def maxPower : Nat := 308

/-- Divides by a power of ten, in several steps where the power itself is no double. -/
def scaleDown : Nat → Float → Nat → Float
  | 0, number, _ => number
  | steps + 1, number, exponent =>
    if exponent ≤ maxPower then number / powerOfTen exponent
    else if number == 0 then number
    else scaleDown steps (number / powerOfTen maxPower) (exponent - maxPower)

/-- A significand times a power of ten, unless the product is out of range. -/
def scale? (significand : Nat) (exponent : Int) : Option Float :=
  let number := (UInt64.ofNat significand).toFloat
  if exponent < 0 then
    some (scaleDown (exponent.natAbs / maxPower + 1) number exponent.natAbs)
  else if exponent.natAbs ≤ maxPower then
    let product := number * powerOfTen exponent.natAbs
    if product.isInf then none else some product
  else if significand = 0 then some number
  else none

/-- Greatest exponent that is taken literally; beyond it a number is zero or out of range. -/
def maxExponent : Nat := 0x7FFFFFFF

/-- The magnitude of a numeral that is no integer. -/
def Numeral.magnitude? (numeral : Numeral) : Option Float :=
  let (start, dropped) := appendDigits 0 numeral.whole
  let fraction := numeral.fraction.getD []
  let (significand, unused) := appendDigits start fraction
  let point : Int := dropped.length - (fraction.length - unused.length : Nat)
  match numeral.exponent with
  | none => scale? significand point
  | some (negative, exponent) =>
    if maxExponent < exponent then
      if significand ≠ 0 ∧ negative = false then none else some 0
    else scale? significand (if negative then point - exponent else point + exponent)

/-- The value of a numeral, unless it is out of range. Zero with a minus sign is a double. -/
def Numeral.value? (numeral : Numeral) : Option Number :=
  let integer := Text.ofDigits 10 numeral.whole
  let isInteger := numeral.fraction.isNone && numeral.exponent.isNone && integer < UInt64.size
  if isInteger && !numeral.negative then some (.int integer)
  else if isInteger && 0 < integer && integer ≤ Text.halfWord then some (.int (-integer))
  else numeral.magnitude?.map fun magnitude =>
    .float (if numeral.negative then -magnitude else magnitude)

/-- Doubles are positional from 0.00001 up to 10^16 and have an exponent with its sign elsewhere. -/
def layout : Decimal.Layout := ⟨-5, 15, "+", .toEven⟩

/-- The text of a number. -/
def Number.render : Number → String
  | .int value => Text.signedDecimal value
  | .float value => layout.render value

end SourceTrace.Json

import SourceTrace.Text.Number
import SourceTrace.Decimal.Shortest

/-!
# Layout of floating point numbers

A layout decides which magnitudes are written with a point and which with an exponent, and how the
exponent looks. The digits are always the shortest ones.
-/

namespace SourceTrace.Decimal

/-- The decisions of a format about floating point text. -/
structure Layout where
  /-- Least exponent of the first digit that is written positionally. -/
  least : Int
  /-- Greatest exponent of the first digit that is written positionally. -/
  greatest : Int
  /-- Sign of an exponent that is not negative. -/
  plus : String
  /-- Choice between two shortest candidates at the same distance. -/
  tie : Tie
  deriving Repr

/-- Digits with a point after the first `whole` of them; zeros fill up on either side, and at least
one digit stands on each. -/
def placePoint (digits : List Char) (whole : Int) : List Char :=
  if whole ≤ 0 then '0' :: '.' :: (List.replicate (-whole).toNat '0' ++ digits)
  else
    let count := whole.toNat
    if digits.length ≤ count then
      digits ++ List.replicate (count - digits.length) '0' ++ ['.', '0']
    else digits.take count ++ '.' :: digits.drop count

/-- A decimal with an exponent: the point follows the first digit if more digits come. -/
def placeExponent (plus : String) (digits : List Char) (exponent : Int) : List Char :=
  let mantissa := match digits with
    | first :: second :: rest => first :: '.' :: second :: rest
    | _ => digits
  let sign := if exponent < 0 then "-" else plus
  mantissa ++ 'e' :: (sign.toList ++ Nat.toDigits 10 exponent.natAbs)

/-- A positive decimal in a layout. -/
def Layout.scaled (layout : Layout) (decimal : Scaled) : List Char :=
  let digits := Nat.toDigits 10 decimal.digits
  let first : Int := decimal.exponent + digits.length - 1
  if layout.least ≤ first ∧ first ≤ layout.greatest then placePoint digits (first + 1)
  else placeExponent layout.plus digits first

/-- A floating point number in a layout. -/
def Layout.render (layout : Layout) (number : Float) : String :=
  if number.isNaN then "NaN"
  else
    let negative := Text.halfWord ≤ number.toBits.toNat
    let magnitude := Binary.ofBits number.toBits
    let text :=
      if number.isInf then "inf".toList
      else if magnitude.significand = 0 then "0.0".toList
      else layout.scaled (magnitude.shortest layout.tie)
    String.ofList (if negative then '-' :: text else text)

end SourceTrace.Decimal

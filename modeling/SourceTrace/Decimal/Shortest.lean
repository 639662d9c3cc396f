/-!
# Shortest decimals

Of the decimals that read back as a given double, the one with the fewest digits, and among those
the nearest to it. A double is taken apart into `significand * 2 ^ exponent`; every test is exact
arithmetic on natural numbers.
-/

namespace SourceTrace.Decimal

/-- A positive finite double: `significand * 2 ^ exponent`, with the significand normalised unless
the exponent is the least one. -/
structure Binary where
  /-- Significand, at most 53 bits. -/
  significand : Nat
  /-- Exponent of two. -/
  exponent : Int
  deriving DecidableEq, Repr

/-- A positive decimal `digits * 10 ^ exponent`. -/
structure Scaled where
  /-- Digits as one number. -/
  digits : Nat
  /-- Exponent of ten. -/
  exponent : Int
  deriving DecidableEq, Repr

/-- The number of fractions that share an exponent, which is the value of the leading bit that
doubles do not store. -/
abbrev hiddenBit : Nat := 0x10000000000000

/-- The magnitude of the finite double with these bits. -/
def Binary.ofBits (bits : UInt64) : Binary :=
  let fraction : Nat := bits.toNat % hiddenBit
  let biased : Nat := bits.toNat / hiddenBit % 0x800
  if biased = 0 then ⟨fraction, -1074⟩ else ⟨fraction + hiddenBit, (biased : Int) - 1075⟩

/-- A positive rational as numerator and denominator. -/
structure Fraction where
  /-- Numerator. -/
  num : Nat
  /-- Denominator. -/
  den : Nat
  deriving DecidableEq, Repr

/-- `value * base ^ exponent` as a fraction. -/
def Fraction.power (value base : Nat) (exponent : Int) : Fraction :=
  if 0 ≤ exponent then ⟨value * Nat.pow base exponent.toNat, 1⟩
  else ⟨value, Nat.pow base (-exponent).toNat⟩

/-- Whether one fraction is below another. -/
def Fraction.lt (first second : Fraction) : Bool :=
  first.num * second.den < second.num * first.den

/-- Whether one fraction is at most another. -/
def Fraction.le (first second : Fraction) : Bool :=
  first.num * second.den ≤ second.num * first.den

/-- The value of a decimal. -/
def Scaled.value (decimal : Scaled) : Fraction :=
  Fraction.power decimal.digits 10 decimal.exponent

/-- The value of a double. -/
def Binary.value (double : Binary) : Fraction :=
  Fraction.power double.significand 2 double.exponent

/-- Half way from a double down to its neighbour, which is nearer below a power of two. -/
def Binary.lower (double : Binary) : Fraction :=
  if double.significand = hiddenBit ∧ -1074 < double.exponent then
    Fraction.power (4 * double.significand - 1) 2 (double.exponent - 2)
  else Fraction.power (2 * double.significand - 1) 2 (double.exponent - 1)

/-- Half way from a double up to its neighbour. -/
def Binary.upper (double : Binary) : Fraction :=
  Fraction.power (2 * double.significand + 1) 2 (double.exponent - 1)

/-- Whether a decimal rounds to a double; the half-way points belong to the even significand. -/
def Binary.reads (double : Binary) (decimal : Scaled) : Bool :=
  if double.significand % 2 = 0 then
    double.lower.le decimal.value && decimal.value.le double.upper
  else double.lower.lt decimal.value && decimal.value.lt double.upper

/-- How a decimal half way between two candidates is chosen. -/
inductive Tie where
  /-- The candidate with the even last digit. -/
  | toEven
  /-- The greater candidate. -/
  | up
  deriving DecidableEq, Repr

/-- The greatest multiple of a power of ten that is at most a fraction, in units of that power. -/
def Fraction.floorAt (value : Fraction) (exponent : Int) : Nat :=
  if 0 ≤ exponent then value.num / (value.den * Nat.pow 10 exponent.toNat)
  else value.num * Nat.pow 10 (-exponent).toNat / value.den

/-- Whether the middle between two neighbours of the grid of a power of ten lies below (`lt`), at
(`eq`) or above (`gt`) a fraction. -/
def Fraction.compareMiddle (value : Fraction) (below : Nat) (exponent : Int) : Ordering :=
  let middle := Fraction.power (2 * below + 1) 10 exponent
  compare (middle.num * value.den) (2 * value.num * middle.den)

/-- The decimal on the grid of a power of ten that reads back as the double, if one does. -/
def Binary.onGrid? (tie : Tie) (double : Binary) (exponent : Int) : Option Scaled :=
  let below := double.value.floorAt exponent
  let low : Scaled := ⟨below, exponent⟩
  let high : Scaled := ⟨below + 1, exponent⟩
  match 0 < below && double.reads low, double.reads high with
  | false, false => none
  | true, false => some low
  | false, true => some high
  | true, true =>
    match double.value.compareMiddle below exponent with
    | .lt => some high
    | .gt => some low
    | .eq => match tie with
      | .up => some high
      | .toEven => some (if below % 2 = 0 then low else high)

/-- The exponent of the first digit of a positive double: the greatest power of ten at most it. The
first argument bounds the search upward from the second. -/
def Binary.magnitudeFrom (double : Binary) : Nat → Int → Int
  | 0, exponent => exponent
  | steps + 1, exponent =>
    if (Scaled.value ⟨1, exponent + 1⟩).le double.value then
      double.magnitudeFrom steps (exponent + 1)
    else exponent

/-- The exponent of the first digit of a positive double; the search starts at a power of ten that
is not above it. -/
def Binary.magnitude (double : Binary) : Int :=
  let bitLength : Int := Nat.log2 double.significand + double.exponent
  double.magnitudeFrom 4 (bitLength * 30103 / 100000 - 2)

/-- Tries ever finer grids, at most `steps` of them. -/
def Binary.searchGrid (tie : Tie) (double : Binary) : Nat → Int → Option Scaled
  | 0, _ => none
  | steps + 1, exponent =>
    match double.onGrid? tie exponent with
    | some decimal => some decimal
    | none => double.searchGrid tie steps (exponent - 1)

/-- Moves zeros at the end of the digits into the exponent, at most `steps` of them. -/
def Scaled.dropZeros : Nat → Scaled → Scaled
  | 0, decimal => decimal
  | steps + 1, decimal =>
    if decimal.digits % 10 = 0 ∧ 0 < decimal.digits then
      Scaled.dropZeros steps ⟨decimal.digits / 10, decimal.exponent + 1⟩
    else decimal

/-- The shortest decimal of a positive double. Seventeen digits always suffice. -/
def Binary.shortest (tie : Tie) (double : Binary) : Scaled :=
  let exponent := double.magnitude
  Scaled.dropZeros 20
    ((double.searchGrid tie 18 exponent).getD
      ⟨double.value.floorAt (exponent - 17), exponent - 17⟩)

end SourceTrace.Decimal

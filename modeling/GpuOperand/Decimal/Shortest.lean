/-!
# Shortest decimals

A binary floating-point value stands for a whole interval of reals, those that
round to it.  Among the decimals in that interval with the fewest digits, this
module selects the one nearest to the value; of two equally near ones it takes
the larger.  All comparisons are exact comparisons of natural numbers.
-/

namespace GpuOperand

/-- The power of a base, or one where the exponent is negative.  A number
`x * base ^ exponent` is thus the fraction of `x * scale base exponent` and
`scale base (-exponent)`. -/
def scale (base : Nat) (exponent : Int) : Nat :=
  Nat.pow base exponent.toNat

/-- The decimal `digits * 10 ^ exponent`. -/
structure Decimal where
  digits : Nat
  exponent : Int
  deriving DecidableEq

/-- A positive binary value between the ends of the interval of reals that round
to it.  All three are fractions over one denominator, a power of two. -/
structure RoundingInterval where
  low : Nat
  value : Nat
  high : Nat
  denominator : Nat
  /-- Whether the ends themselves round to the value. -/
  closed : Bool
  deriving DecidableEq

namespace RoundingInterval

/-- The interval around `significand * 2 ^ exponent`.  Each end lies half way to
a neighbouring value, and a tie rounds to the even significand.  Just above a
power of two the lower neighbour is only half as far away as the upper one. -/
def ofBinary (significand : Nat) (exponent : Int) (narrowBelow : Bool) :
    RoundingInterval :=
  { low := (4 * significand - if narrowBelow then 1 else 2) * scale 2 exponent
    value := 4 * significand * scale 2 exponent
    high := (4 * significand + 2) * scale 2 exponent
    denominator := 4 * scale 2 (-exponent)
    closed := significand % 2 == 0 }

/-- Whether a decimal rounds to the value. -/
def contains (interval : RoundingInterval) (decimal : Decimal) : Bool :=
  let scaled := decimal.digits * scale 10 decimal.exponent * interval.denominator
  let unit := scale 10 (-decimal.exponent)
  if interval.closed then
    interval.low * unit ≤ scaled && scaled ≤ interval.high * unit
  else
    interval.low * unit < scaled && scaled < interval.high * unit

/-- The number of decimal digits of a natural number. -/
def digitCount (number : Nat) : Nat :=
  (Nat.toDigits 10 number).length

/-- The least place such that the value is below `10 ^ place`. -/
def place (interval : RoundingInterval) : Int :=
  if interval.denominator ≤ interval.value then
    digitCount (interval.value / interval.denominator)
  else
    1 - (digitCount ((interval.denominator - 1) / interval.value) : Int)

/-- The better of the value's two neighbours on the grid of the multiples of
`10 ^ exponent`, if one of them rounds to the value. -/
def nearestOnGrid? (interval : RoundingInterval) (exponent : Int) : Option Decimal :=
  let scaled := interval.value * scale 10 (-exponent)
  let unit := interval.denominator * scale 10 exponent
  let below : Decimal := ⟨scaled / unit, exponent⟩
  let above : Decimal := ⟨scaled / unit + 1, exponent⟩
  match interval.contains below, interval.contains above with
  | true, true => some (if 2 * scaled < (2 * below.digits + 1) * unit then below else above)
  | true, false => some below
  | false, true => some above
  | false, false => none

/-- The value itself as a decimal. -/
def exactDecimal (interval : RoundingInterval) : Decimal :=
  let power : Int := interval.denominator.log2
  ⟨interval.value * scale 5 power, -power⟩

/-- Digits that determine every binary64 value. -/
def sufficientDigits : Nat := 17

/-- The nearest of the shortest decimals that round to the value.  Its digits may
end in zeros, which carry no information. -/
def shortest (interval : RoundingInterval) : Decimal :=
  ((List.range sufficientDigits).findSome? fun (extra : Nat) =>
    interval.nearestOnGrid? (interval.place - 1 - extra)).getD interval.exactDecimal

end RoundingInterval

namespace Decimal

/-- Significant digits of a decimal without the zeros at their end. -/
def significantDigits (decimal : Decimal) : List Char :=
  ((Nat.toDigits 10 decimal.digits).reverse.dropWhile (· == '0')).reverse

/-- How many digits stand in front of the decimal point; negative when the
point is followed by zeros. -/
def pointPlace (decimal : Decimal) : Int :=
  (Nat.toDigits 10 decimal.digits).length + decimal.exponent

end Decimal

end GpuOperand

import GpuOperand.Decimal.Shortest

/-!
# Double precision values

A double precision value is its 64-bit pattern: one sign bit, eleven exponent
bits and 52 fraction bits.  Keeping the pattern tells apart the two zeros and
the many NaNs; comparison as numbers is a separate relation.  The text of a
value has the fewest digits that read back.
-/

namespace GpuOperand

/-- A binary64 floating-point value, given by its bit pattern. -/
structure Double where
  bits : UInt64
  deriving DecidableEq

namespace Double

/-- The number of values of the 52 fraction bits, which is also the weight of the
leading bit that a normal significand does not store. -/
def fractionCount : Nat := 0x10000000000000

/-- The number of values of the eleven exponent bits. -/
def exponentCount : Nat := 0x800

def fraction (value : Double) : Nat :=
  value.bits.toNat % fractionCount

def exponentField (value : Double) : Nat :=
  value.bits.toNat / fractionCount % exponentCount

def isNegative (value : Double) : Bool :=
  exponentCount * fractionCount ≤ value.bits.toNat

/-- The exponent field of the infinities and the NaNs. -/
def specialExponent : Nat := exponentCount - 1

def isNaN (value : Double) : Bool :=
  value.exponentField == specialExponent && value.fraction != 0

def isInfinite (value : Double) : Bool :=
  value.exponentField == specialExponent && value.fraction == 0

def isZero (value : Double) : Bool :=
  value.exponentField == 0 && value.fraction == 0

/-- Equality as numbers: a NaN differs from everything, itself included, and the
two zeros are equal. -/
def sameNumber (left right : Double) : Bool :=
  !left.isNaN && !right.isNaN && (left == right || left.isZero && right.isZero)

/-- The interval of reals that round to the magnitude of a finite value. -/
def roundingInterval (value : Double) : RoundingInterval :=
  if value.exponentField = 0 then
    .ofBinary value.fraction (-1074) false
  else
    .ofBinary (fractionCount + value.fraction) (value.exponentField - 1075)
      (value.fraction == 0 && 1 < value.exponentField)

/-- The least exponent of a leading digit that is written positionally. -/
def leastPositional : Int := -4

/-- The least exponent of a leading digit that is too large to be written
positionally. -/
def leastScientific : Int := 16

/-- Digits with a point behind the first of them, if there are more, and the
exponent of that first digit. -/
def scientific (digits : List Char) (exponent : Int) : List Char :=
  let mantissa :=
    match digits with
    | first :: second :: rest => first :: '.' :: second :: rest
    | _ => digits
  let sign := if exponent < 0 then ['-'] else []
  mantissa ++ 'e' :: sign ++ Nat.toDigits 10 exponent.natAbs

/-- Digits around a decimal point, with at least one digit on either side. -/
def positional (digits : List Char) (place : Int) : List Char :=
  if place ≤ 0 then
    '0' :: '.' :: List.replicate (-place).toNat '0' ++ digits
  else if digits.length ≤ place then
    digits ++ List.replicate (place.toNat - digits.length) '0' ++ ['.', '0']
  else
    digits.take place.toNat ++ '.' :: digits.drop place.toNat

/-- A positive decimal, written positionally unless its leading digit is below
the fourth place behind the point or above the sixteenth in front of it. -/
def decimalText (decimal : Decimal) : List Char :=
  let digits := decimal.significantDigits
  let exponent := decimal.pointPlace - 1
  if leastPositional ≤ exponent ∧ exponent < leastScientific then
    positional digits decimal.pointPlace
  else
    scientific digits exponent

/-- The text of a value without its sign. -/
def magnitudeText (value : Double) : List Char :=
  if value.isInfinite then ['i', 'n', 'f']
  else if value.isZero then ['0', '.', '0']
  else decimalText value.roundingInterval.shortest

/-- The text of a value.  The sign of a zero is written, that of a NaN is not. -/
def text (value : Double) : String :=
  if value.isNaN then "NaN"
  else
    String.ofList ((if value.isNegative then ['-'] else []) ++ value.magnitudeText)

end Double

end GpuOperand

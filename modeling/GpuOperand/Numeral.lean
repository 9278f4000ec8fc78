/-!
# Written natural numbers

Two spellings of a natural number occur in operand text: plain decimal digits,
and lowercase hexadecimal digits behind a `0x` mark.  Neither pads, groups or
signs its digits, and zero is written with the one digit `0`.
-/

namespace GpuOperand

namespace Numeral

/-- Decimal digits, most significant first. -/
def decimal (number : Nat) : String :=
  String.ofList (Nat.toDigits 10 number)

/-- Lowercase hexadecimal digits without a mark. -/
def bareHexadecimal (number : Nat) : String :=
  String.ofList (Nat.toDigits 16 number)

/-- Lowercase hexadecimal digits behind the mark `0x`. -/
def hexadecimal (number : Nat) : String :=
  "0x" ++ bareHexadecimal number

@[simp]
theorem toList_decimal (number : Nat) :
    (decimal number).toList = Nat.toDigits 10 number :=
  String.toList_ofList

@[simp]
theorem toList_bareHexadecimal (number : Nat) :
    (bareHexadecimal number).toList = Nat.toDigits 16 number :=
  String.toList_ofList

@[simp]
theorem toList_hexadecimal (number : Nat) :
    (hexadecimal number).toList = '0' :: 'x' :: Nat.toDigits 16 number := by
  simp [hexadecimal]

end Numeral

end GpuOperand

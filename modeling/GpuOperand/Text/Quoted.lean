import GpuOperand.Numeral
import GpuOperand.Text.ExtendingMark
import GpuOperand.Text.Unprintable

/-!
# Quoted text

A text is quoted so that it stays on one line and every character of it can be
seen.  Six characters have an escape of two characters; any other character that
shows nothing of its own is written as its hexadecimal code point; all else
stands for itself.  What is written for a character never depends on its
neighbours.
-/

namespace GpuOperand

namespace Quoted

/-- The code points with the property Default_Ignorable_Code_Point, which are
drawn as nothing.  The table follows Unicode 17.0. -/
def ignorable : List (Nat × Nat) :=
  [(0xAD, 0xAD), (0x34F, 0x34F), (0x61C, 0x61C), (0x115F, 0x1160),
    (0x17B4, 0x17B5), (0x180B, 0x180F), (0x200B, 0x200F), (0x202A, 0x202E),
    (0x2060, 0x206F), (0x3164, 0x3164), (0xFE00, 0xFE0F), (0xFEFF, 0xFEFF),
    (0xFFA0, 0xFFA0), (0xFFF0, 0xFFF8), (0x1BCA0, 0x1BCA3), (0x1D173, 0x1D17A),
    (0xE0000, 0xE0FFF)]

/-- Whether a character shows something of its own wherever it stands. -/
def isVisible (character : Char) : Bool :=
  !(CodePoint.isIn CodePoint.unprintable character.toNat ||
    CodePoint.isIn CodePoint.extendingMarks character.toNat ||
    CodePoint.isIn ignorable character.toNat)

/-- The letter behind the backslash in an escape of two characters. -/
def escapeLetter? : Char → Option Char
  | '\x00' => some '0'
  | '\t' => some 't'
  | '\n' => some 'n'
  | '\r' => some 'r'
  | '"' => some '"'
  | '\\' => some '\\'
  | _ => none

/-- What is written for one character. -/
def escape (character : Char) : List Char :=
  match escapeLetter? character with
  | some letter => ['\\', letter]
  | none =>
      if isVisible character then
        [character]
      else
        '\\' :: 'u' :: '{' :: Nat.toDigits 16 character.toNat ++ ['}']

/-- What is written for a text, without the quotation marks around it. -/
def encode (text : List Char) : List Char :=
  text.flatMap escape

end Quoted

/-- A text between quotation marks, with its escapes. -/
def quoted (text : String) : String :=
  "\"" ++ String.ofList (Quoted.encode text.toList) ++ "\""

end GpuOperand

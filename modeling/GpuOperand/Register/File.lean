import GpuOperand.NameTable
import GpuOperand.Numeral

/-!
# Register files

A register or predicate number is an index into one of four register files.
Each file has a largest legal number, and some numbers are reserved by the
architecture: the last register of a general purpose file reads as zero, and
the predicate files end with an always-true predicate and a number that stands
for the whole file.
-/

namespace GpuOperand

/-- A register or predicate number as an operand stores it. -/
abbrev RegNum := UInt8

/-- The register file that a register or predicate number indexes. -/
inductive RegFile where
  | general
  | uniform
  | predicate
  | uniformPredicate
  deriving DecidableEq, Ord

namespace RegFile

instance : NameTable RegFile where
  typeName := "RegFile"
  members := [.general, .uniform, .predicate, .uniformPredicate]
  name
    | .general => "GPR"
    | .uniform => "UGPR"
    | .predicate => "PRED"
    | .uniformPredicate => "UPRED"
  mem_members file := by cases file <;> decide
  nodup_members := by decide
  nodup_names := by decide

/-- The general purpose register that reads as zero and discards writes. -/
def zeroRegister : RegNum := 255

/-- The uniform register that reads as zero and discards writes. -/
def uniformZeroRegister : RegNum := 63

/-- The predicate that is always true. -/
def truePredicate : RegNum := 7

/-- The number that stands for the whole predicate file. -/
def wholePredicateFile : RegNum := 8

/-- The uniform predicate that is always true. -/
def uniformTruePredicate : RegNum := 7

/-- The number that stands for the whole uniform predicate file. -/
def wholeUniformPredicateFile : RegNum := 8

/-- The largest legal number in a file. -/
def maxNum : RegFile → RegNum
  | general => zeroRegister
  | uniform => uniformZeroRegister
  | predicate => wholePredicateFile
  | uniformPredicate => wholeUniformPredicateFile

/-- Narrow a decoded number to a legal one of the file, without wrapping. -/
def narrow? (file : RegFile) (number : UInt32) : Option RegNum :=
  if number ≤ file.maxNum.toUInt32 then some number.toUInt8 else none

/-- Whether all threads of a warp share the registers of the file. -/
def isUniform : RegFile → Bool
  | uniform | uniformPredicate => true
  | general | predicate => false

/-- Whether the file holds truth values. -/
def isPredicate : RegFile → Bool
  | predicate | uniformPredicate => true
  | general | uniform => false

/-- The letters in front of a register number. -/
def stem : RegFile → String
  | general => "R"
  | uniform => "UR"
  | predicate => "P"
  | uniformPredicate => "UP"

/-- The name of a number that the architecture reserves. -/
def reservedName? (file : RegFile) (number : RegNum) : Option String :=
  match file with
  | general =>
      if number = zeroRegister then some "RZ" else none
  | uniform =>
      if number = uniformZeroRegister then some "URZ" else none
  | predicate =>
      if number = truePredicate then some "PT"
      else if number = wholePredicateFile then some "PR"
      else none
  | uniformPredicate =>
      if number = uniformTruePredicate then some "UPT"
      else if number = wholeUniformPredicateFile then some "UPR"
      else none

/-- The stem followed by the decimal number, reserved or not. -/
def numberedName (file : RegFile) (number : RegNum) : String :=
  file.stem ++ Numeral.decimal number.toNat

/-- The reserved name where there is one, and the numbered name elsewhere. -/
def regName (file : RegFile) (number : RegNum) : String :=
  (file.reservedName? number).getD (file.numberedName number)

end RegFile

end GpuOperand

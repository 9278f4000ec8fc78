import GpuOperand.Payload.Basic
import GpuOperand.Text.Quoted

/-!
# Summaries of payloads

A payload is summarised for a reader, not for an assembler.  Registers appear
under their numbers, and a reserved number shows its reserved name as well.
Offsets are signed hexadecimal numbers.
-/

namespace GpuOperand

/-- `R6`, or `R255(RZ)` when the number is reserved. -/
def RegFile.label (file : RegFile) (number : RegNum) : String :=
  match file.reservedName? number with
  | some reserved => file.numberedName number ++ "(" ++ reserved ++ ")"
  | none => file.numberedName number

/-- The label of a register in an address, with its modifier if it has one. -/
def AddressRegister.label (register : AddressRegister) (file : RegFile) : String :=
  if register.modifier = .plain then
    file.label register.number
  else
    file.label register.number ++ "." ++ NameTable.name register.modifier

namespace Payload

/-- Add a signed offset to an address, as in `R1-0x10`.  A positive offset shows
its sign only behind something else. -/
def withOffset (base : String) (offset : Option Int32) : String :=
  match offset with
  | none => base
  | some offset =>
      let sign := if offset < 0 then "-" else if base.isEmpty then "" else "+"
      base ++ sign ++ Numeral.hexadecimal offset.toInt.natAbs

/-- `c[0x3]`, followed by the offset in brackets if there is one. -/
def bankSummary (bank : ConstantBank) : String :=
  let register := (bank.regOffset.map (RegFile.label .general)).getD ""
  let offset := withOffset register bank.immOffset
  "c[" ++ Numeral.hexadecimal bank.bank.toNat ++ "]" ++
    if offset.isEmpty then "" else "[" ++ offset ++ "]"

/-- The registers of an address, joined by `+`. -/
def addressRegisters (reference : MemoryReference) : String :=
  match reference.base, reference.uniformOffset with
  | some base, some offset => base.label .general ++ "+" ++ offset.label .uniform
  | some base, none => base.label .general
  | none, some offset => offset.label .uniform
  | none, none => ""

/-- The address in brackets, followed by the register of the descriptor. -/
def referenceSummary (reference : MemoryReference) : String :=
  "[" ++ withOffset (addressRegisters reference) reference.immOffset ++ "]" ++
    match reference.descriptor with
    | some number => " desc=" ++ RegFile.label .uniform number
    | none => ""

/-- The summary of a payload.  Generic text is quoted; the property text of a
register is written as it is. -/
def summary : Payload → String
  | integer value => Numeral.hexadecimal value.toNat
  | float value => value.text
  | register use => RegFile.label .general use.number ++ use.property
  | predicate use => RegFile.label .predicate use.number
  | uniformRegister use => RegFile.label .uniform use.number ++ use.property
  | uniformPredicate use => RegFile.label .uniformPredicate use.number
  | constantBank bank => bankSummary bank
  | memoryReference reference => referenceSummary reference
  | generic text => quoted text
  | memoryDescriptor descriptor =>
      "desc[" ++ RegFile.label .uniform descriptor.register ++ "]"

end Payload

end GpuOperand

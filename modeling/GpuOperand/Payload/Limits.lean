import GpuOperand.Payload.Basic
import GpuOperand.Text.Bounded

/-!
# Limits of payloads

Register and predicate numbers must exist in the file that they index, and texts
must not be too long.  The fields of a payload are checked in a fixed order, and
the first one that is not within its limit is reported.
-/

namespace GpuOperand

/-- The complaint about a number that a register file does not have. -/
def RegFile.outOfRange (file : RegFile) (kind : Kind) (field : String)
    (number : UInt32) : OperandError :=
  .outOfRange kind field number file.maxNum.toUInt32

/-- Narrow a decoded number to the register file that a field indexes. -/
def RegFile.narrow (file : RegFile) (kind : Kind) (field : String) (number : UInt32) :
    Except OperandError RegNum :=
  match file.narrow? number with
  | some legal => .ok legal
  | none => .error (file.outOfRange kind field number)

/-- A number that the file has is kept as it is, and any other one is refused. -/
theorem RegFile.narrow_eq (file : RegFile) (kind : Kind) (field : String)
    (number : UInt32) :
    file.narrow kind field number =
      if number ≤ file.maxNum.toUInt32 then .ok number.toUInt8
      else .error (file.outOfRange kind field number) := by
  by_cases legal : number ≤ file.maxNum.toUInt32 <;> simp [narrow, narrow?, legal]

/-- Check that the file has a number that is stored already. -/
def RegFile.checkNumber (file : RegFile) (kind : Kind) (field : String) (number : RegNum) :
    Except OperandError Unit :=
  (file.narrow kind field number.toUInt32).map fun _ => ()

namespace Payload

/-- Check every field that has a limit, up to the first that exceeds it. -/
def validate (payload : Payload) : Except OperandError Unit :=
  let kind := payload.kind
  match payload with
  | integer _ | float _ => .ok ()
  | register use | uniformRegister use => do
      kind.regFile?.forM fun file => file.checkNumber kind "num" use.number
      checkLength "prop" use.property
  | predicate use | uniformPredicate use =>
      kind.regFile?.forM fun file => file.checkNumber kind "num" use.number
  | constantBank bank => bank.regOffset.forM (RegFile.general.checkNumber kind "reg_offset")
  | memoryReference reference => do
      reference.base.forM fun base => RegFile.general.checkNumber kind "ra_num" base.number
      reference.uniformOffset.forM fun offset =>
        RegFile.uniform.checkNumber kind "ur_num" offset.number
      reference.descriptor.forM (RegFile.uniform.checkNumber kind "desc_ureg_num")
  | generic text => checkLength "generic" text
  | memoryDescriptor descriptor =>
      RegFile.uniform.checkNumber kind "ureg_num" descriptor.register

end Payload

end GpuOperand

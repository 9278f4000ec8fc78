import GpuOperand.Register.File

/-!
# Operand kinds

Every operand is of one of ten kinds, and the kind decides what the operand
carries.  Register and predicate kinds index a register file.
-/

namespace GpuOperand

/-- The kind of an operand. -/
inductive Kind where
  | integer
  | float
  | register
  | predicate
  | uniformRegister
  | uniformPredicate
  | constantBank
  | memoryReference
  | generic
  | memoryDescriptor
  deriving DecidableEq, Ord

namespace Kind

instance : NameTable Kind where
  typeName := "OperandKind"
  members :=
    [.integer, .float, .register, .predicate, .uniformRegister, .uniformPredicate,
      .constantBank, .memoryReference, .generic, .memoryDescriptor]
  name
    | .integer => "IMM_UINT64"
    | .float => "IMM_DOUBLE"
    | .register => "REG"
    | .predicate => "PRED"
    | .uniformRegister => "UREG"
    | .uniformPredicate => "UPRED"
    | .constantBank => "CBANK"
    | .memoryReference => "MREF"
    | .generic => "GENERIC"
    | .memoryDescriptor => "MEM_DESC"
  mem_members kind := by cases kind <;> decide
  nodup_members := by decide
  nodup_names := by decide

/-- The name of the kind in its table. -/
abbrev name (kind : Kind) : String :=
  NameTable.name kind

/-- The register file that the operand's own number indexes. -/
def regFile? : Kind → Option RegFile
  | register => some .general
  | uniformRegister => some .uniform
  | predicate => some .predicate
  | uniformPredicate => some .uniformPredicate
  | _ => none

/-- Whether the operand is a literal value. -/
def isImmediate : Kind → Bool
  | integer | float => true
  | _ => false

/-- Whether the operand addresses memory on its own. -/
def isMemory : Kind → Bool
  | memoryReference | memoryDescriptor => true
  | _ => false

end Kind

end GpuOperand

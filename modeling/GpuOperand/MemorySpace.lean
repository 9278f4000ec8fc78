import GpuOperand.NameTable

/-!
# Memory spaces

An instruction as a whole targets one memory space, which bounds the number of
memory references that the instruction is expected to carry.  No instruction
carries more than two: one that copies from global to shared memory names both
addresses.
-/

namespace GpuOperand

/-- The memory space that an instruction targets. -/
inductive MemorySpace where
  | noMemory
  | localMemory
  | generic
  | global
  | shared
  | constant
  | globalToShared
  | surface
  | texture
  | distributedShared
  | tensorMemory
  | tensorCoreMemory
  deriving DecidableEq, Ord, Inhabited

namespace MemorySpace

instance : NameTable MemorySpace where
  typeName := "MemorySpace"
  members :=
    [.noMemory, .localMemory, .generic, .global, .shared, .constant, .globalToShared,
      .surface, .texture, .distributedShared, .tensorMemory, .tensorCoreMemory]
  name
    | .noMemory => "NONE"
    | .localMemory => "LOCAL"
    | .generic => "GENERIC"
    | .global => "GLOBAL"
    | .shared => "SHARED"
    | .constant => "CONSTANT"
    | .globalToShared => "GLOBAL_TO_SHARED"
    | .surface => "SURFACE"
    | .texture => "TEXTURE"
    | .distributedShared => "DISTRIBUTED_SHARED"
    | .tensorMemory => "TENSOR_MEM"
    | .tensorCoreMemory => "TENSOR_CORE_MEM"
  mem_members space := by cases space <;> decide
  nodup_members := by decide
  nodup_names := by decide

/-- The most memory references that any instruction can carry. -/
def memRefCeiling : Nat := 2

/-- The number of memory references that an instruction in this space is
expected not to exceed. -/
def maxMemRefs : MemorySpace → Nat
  | noMemory => 0
  | globalToShared => memRefCeiling
  | _ => 1

/-- Whether the space is, or writes to, memory shared by a block of threads. -/
def isSharedLike : MemorySpace → Bool
  | shared | distributedShared | globalToShared => true
  | _ => false

/-- Whether the instruction targets no memory at all. -/
def isNone (space : MemorySpace) : Bool :=
  space == noMemory

end MemorySpace

end GpuOperand

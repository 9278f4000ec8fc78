import GpuOperand.Draft.Basic

/-!
# Operands of an instruction

The operands of one instruction are a list together with the memory space that
the instruction targets.  More than two memory references are refused.  Fewer,
but more than the memory space expects, are accepted with a notice.
-/

namespace GpuOperand

/-- The operands of one instruction. -/
structure OperandList where
  space : MemorySpace := .noMemory
  operands : List Operand := []
  deriving DecidableEq, Inhabited

namespace OperandList

/-- The memory references among operands. -/
def referencesIn (operands : List Operand) : List MemoryReference :=
  operands.filterMap fun operand => operand.payload.content? .memoryReference

/-- The memory references of the instruction, in order. -/
def memRefs (list : OperandList) : List MemoryReference :=
  referencesIn list.operands

/-- The memory descriptors of the instruction, in order. -/
def memDescs (list : OperandList) : List MemoryDescriptor :=
  list.operands.filterMap fun operand => operand.payload.content? .memoryDescriptor

/-- Whether there are no more memory references than the space expects. -/
def fitsSpace (list : OperandList) : Bool :=
  list.memRefs.length ≤ list.space.maxMemRefs

/-- The kinds of the operands, in order. -/
def kinds (list : OperandList) : List Kind :=
  list.operands.map Operand.kind

/-- Take over the operands of an instruction, unless they hold more memory
references than any instruction can carry. -/
def ofOperands (space : MemorySpace) (operands : List Operand) :
    Logged OperandListError OperandList :=
  let list : OperandList := { space, operands }
  let found := (operands.filter Operand.isMemoryReference).length
  if MemorySpace.memRefCeiling < found then
    (Logged.fail (.tooManyMemRefs found MemorySpace.memRefCeiling)).andNote
      [.listRejected space list.kinds]
  else if list.fitsSpace then
    .ok list
  else
    (Logged.ok list).andNote [.memRefsExceedSpace space found]

/-- Build drafts in order, up to the first failure. -/
def buildAll : List Draft → Logged OperandError (List Operand)
  | [] => .ok []
  | draft :: rest =>
      draft.build.bind fun operand => (buildAll rest).map (operand :: ·)

/-- Build the operands of an instruction from drafts of them. -/
def ofDrafts (space : MemorySpace) (drafts : List Draft) :
    Logged OperandListError OperandList :=
  ((buildAll drafts).mapError .operand).bind (ofOperands space)

/-- The first operand of a kind. -/
def find? (list : OperandList) (kind : Kind) : Option Operand :=
  list.operands.find? fun operand => operand.kind == kind

/-- Count one more occurrence of a kind.  A kind that has not occurred yet comes
last. -/
def countKind (histogram : List (Kind × Nat)) (kind : Kind) : List (Kind × Nat) :=
  match histogram with
  | [] => [(kind, 1)]
  | (counted, occurrences) :: rest =>
      if counted = kind then
        (counted, occurrences + 1) :: rest
      else
        (counted, occurrences) :: countKind rest kind

/-- How many operands there are of each kind, in the order in which the kinds
first occur. -/
def kindHistogram (list : OperandList) : List (Kind × Nat) :=
  list.kinds.foldl countKind []

/-- Whether the instruction targets a memory space or one of its operands
addresses memory. -/
def accessesMemory (list : OperandList) : Bool :=
  !list.space.isNone || list.kinds.any Kind.isMemory

/-- Equality of operand lists that compares floating-point literals as numbers. -/
def sameValue (left right : OperandList) : Bool :=
  left.space == right.space && left.operands.length == right.operands.length &&
    (left.operands.zip right.operands).all fun pair => pair.1.sameValue pair.2

end OperandList

end GpuOperand

import GpuOperand.Double
import GpuOperand.Kind
import GpuOperand.Register.Modifier

/-!
# Payloads

What an operand carries depends on its kind: a literal value, a register or
predicate, a reference into a constant bank or into memory, or uninterpreted
text.  The parts of a reference are optional, and a part that is absent differs
from one that is zero.
-/

namespace GpuOperand

/-- A general purpose or uniform register with its property text, such as `.X4`
or `.reuse`. -/
structure RegisterUse where
  number : RegNum := 0
  property : String := ""
  deriving DecidableEq, Inhabited

/-- The modifier that the property text names. -/
def RegisterUse.modifier (register : RegisterUse) : RegModifier :=
  .ofProperty register.property

/-- A predicate or uniform predicate. -/
structure PredicateUse where
  number : RegNum := 0
  deriving DecidableEq, Inhabited

namespace PredicateUse

/-- Whether this is the predicate that is always true. -/
def isTrue (predicate : PredicateUse) : Bool :=
  predicate.number == RegFile.truePredicate

/-- Whether this stands for the whole predicate file. -/
def isWholeFile (predicate : PredicateUse) : Bool :=
  predicate.number == RegFile.wholePredicateFile

end PredicateUse

/-- A reference into a constant bank, with a fixed offset, a general purpose
register added to the offset, both or neither. -/
structure ConstantBank where
  bank : UInt32 := 0
  immOffset : Option Int32 := none
  regOffset : Option RegNum := none
  deriving DecidableEq, Inhabited

/-- A register in an address, with its stride or size. -/
structure AddressRegister where
  number : RegNum := 0
  modifier : RegModifier := .plain
  deriving DecidableEq, Inhabited

/-- A reference into memory: a base register, a uniform register and a fixed
offset added to it, and a uniform register that holds the memory descriptor. -/
structure MemoryReference where
  base : Option AddressRegister := none
  uniformOffset : Option AddressRegister := none
  immOffset : Option Int32 := none
  descriptor : Option RegNum := none
  deriving DecidableEq, Inhabited

/-- Whether no part of the reference is present. -/
def MemoryReference.isAbsent (reference : MemoryReference) : Bool :=
  reference.base.isNone && reference.uniformOffset.isNone &&
    reference.immOffset.isNone && reference.descriptor.isNone

/-- A memory descriptor in a uniform register, without an address. -/
structure MemoryDescriptor where
  register : RegNum := 0
  deriving DecidableEq, Inhabited

/-- What an operand carries. -/
inductive Payload where
  | integer (value : UInt64)
  | float (value : Double)
  | register (register : RegisterUse)
  | predicate (predicate : PredicateUse)
  | uniformRegister (register : RegisterUse)
  | uniformPredicate (predicate : PredicateUse)
  | constantBank (bank : ConstantBank)
  | memoryReference (reference : MemoryReference)
  /-- Operand forms that are kept as text only. -/
  | generic (text : String)
  | memoryDescriptor (descriptor : MemoryDescriptor)
  deriving DecidableEq

namespace Payload

def kind : Payload → Kind
  | integer _ => .integer
  | float _ => .float
  | register _ => .register
  | predicate _ => .predicate
  | uniformRegister _ => .uniformRegister
  | uniformPredicate _ => .uniformPredicate
  | constantBank _ => .constantBank
  | memoryReference _ => .memoryReference
  | generic _ => .generic
  | memoryDescriptor _ => .memoryDescriptor

end Payload

/-- The type of what an operand of a kind carries. -/
abbrev Kind.Content : Kind → Type
  | integer => UInt64
  | float => Double
  | register | uniformRegister => RegisterUse
  | predicate | uniformPredicate => PredicateUse
  | constantBank => ConstantBank
  | memoryReference => MemoryReference
  | generic => String
  | memoryDescriptor => MemoryDescriptor

namespace Payload

/-- The payload of a kind with the given content. -/
def ofContent : (kind : Kind) → kind.Content → Payload
  | .integer, value => integer value
  | .float, value => float value
  | .register, use => register use
  | .predicate, use => predicate use
  | .uniformRegister, use => uniformRegister use
  | .uniformPredicate, use => uniformPredicate use
  | .constantBank, bank => constantBank bank
  | .memoryReference, reference => memoryReference reference
  | .generic, text => generic text
  | .memoryDescriptor, descriptor => memoryDescriptor descriptor

/-- Whether a payload is of the given kind. -/
def isOf : Kind → Payload → Bool
  | .integer, integer _ => true
  | .float, float _ => true
  | .register, register _ => true
  | .predicate, predicate _ => true
  | .uniformRegister, uniformRegister _ => true
  | .uniformPredicate, uniformPredicate _ => true
  | .constantBank, constantBank _ => true
  | .memoryReference, memoryReference _ => true
  | .generic, generic _ => true
  | .memoryDescriptor, memoryDescriptor _ => true
  | _, _ => false

/-- The content of a payload, if it is of the given kind. -/
def content? : (kind : Kind) → Payload → Option kind.Content
  | .integer, integer value => some value
  | .float, float value => some value
  | .register, register use => some use
  | .predicate, predicate use => some use
  | .uniformRegister, uniformRegister use => some use
  | .uniformPredicate, uniformPredicate use => some use
  | .constantBank, constantBank bank => some bank
  | .memoryReference, memoryReference reference => some reference
  | .generic, generic text => some text
  | .memoryDescriptor, memoryDescriptor descriptor => some descriptor
  | _, _ => none

/-- The number of a register or predicate operand. -/
def regNum? : Payload → Option RegNum
  | register use | uniformRegister use => some use.number
  | predicate use | uniformPredicate use => some use.number
  | _ => none

/-- Equality of payloads that compares floating-point literals as numbers. -/
def sameValue : Payload → Payload → Bool
  | float left, float right => left.sameNumber right
  | left, right => left == right

end Payload

end GpuOperand

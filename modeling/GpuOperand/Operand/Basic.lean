import GpuOperand.Payload.Limits

/-!
# Operands

An operand of a decoded instruction has a literal text, flags that apply to any
kind of operand, a width, and a payload that decides its kind.  Operands are made
from a header and a payload, which are checked on the way; afterwards they are
only read.
-/

namespace GpuOperand

/-- Flags that apply to an operand whatever its kind. -/
structure Flags where
  negated : Bool := false
  inverted : Bool := false
  absolute : Bool := false
  deriving DecidableEq, Inhabited

/-- Whether no flag is set. -/
def Flags.isEmpty (flags : Flags) : Bool :=
  !(flags.negated || flags.inverted || flags.absolute)

/-- What a decoder supplies for an operand of any kind.  A width of zero bytes
means that the operand has none. -/
structure Header where
  text : String := ""
  flags : Flags := {}
  sizeBytes : UInt32 := 0
  deriving DecidableEq, Inhabited

/-- One operand of a decoded instruction. -/
structure Operand where
  text : BoundedText
  flags : Flags
  sizeBytes : UInt32
  payload : Payload
  deriving DecidableEq

namespace Operand

/-- Make an operand from its parts.  The payload is checked before the text. -/
def ofParts (header : Header) (payload : Payload) (policy : TextPolicy := .reject) :
    Logged OperandError Operand :=
  match payload.validate with
  | .error violation => .fail violation
  | .ok () =>
      (BoundedText.ofString header.text policy).map fun text =>
        { text, flags := header.flags, sizeBytes := header.sizeBytes, payload }

/-- Make an operand of a kind that was decoded apart from the payload.  The kind
is checked first. -/
def ofKind (kind : Kind) (header : Header) (payload : Payload) :
    Logged OperandError Operand :=
  if payload.kind = kind then
    ofParts header payload
  else
    .fail (.kindMismatch kind payload.kind)

/-- Record that the text was cut, if it was. -/
def markTruncated (operand : Operand) (truncated : Bool) : Operand :=
  { operand with
    text := { operand.text with truncated := operand.text.truncated || truncated } }

def kind (operand : Operand) : Kind :=
  operand.payload.kind

/-- The header that the operand would be made from again. -/
def header (operand : Operand) : Header :=
  { text := operand.text.value, flags := operand.flags, sizeBytes := operand.sizeBytes }

/-- The payload of an operand of the expected kind. -/
def inspect (operand : Operand) (expected : Kind) : Except OperandError Payload :=
  if operand.kind = expected then
    .ok operand.payload
  else
    .error (.kindMismatch expected operand.kind)

/-- Whether the operand is of the given kind. -/
def isOf (operand : Operand) (kind : Kind) : Bool :=
  operand.payload.isOf kind

/-- The content of an operand of the expected kind. -/
def content (operand : Operand) (expected : Kind) : Except OperandError expected.Content :=
  match operand.payload.content? expected with
  | some content => .ok content
  | none => .error (.kindMismatch expected operand.kind)

section Accessors

-- A check and an accessor for each kind.
variable (operand : Operand)

def isInteger : Bool := operand.isOf .integer

def isFloat : Bool := operand.isOf .float

def isRegister : Bool := operand.isOf .register

def isPredicate : Bool := operand.isOf .predicate

def isUniformRegister : Bool := operand.isOf .uniformRegister

def isUniformPredicate : Bool := operand.isOf .uniformPredicate

def isConstantBank : Bool := operand.isOf .constantBank

def isMemoryReference : Bool := operand.isOf .memoryReference

def isGeneric : Bool := operand.isOf .generic

def isMemoryDescriptor : Bool := operand.isOf .memoryDescriptor

def asInteger : Except OperandError UInt64 := operand.content .integer

def asFloat : Except OperandError Double := operand.content .float

def asRegister : Except OperandError RegisterUse := operand.content .register

def asPredicate : Except OperandError PredicateUse := operand.content .predicate

def asUniformRegister : Except OperandError RegisterUse := operand.content .uniformRegister

def asUniformPredicate : Except OperandError PredicateUse := operand.content .uniformPredicate

def asConstantBank : Except OperandError ConstantBank := operand.content .constantBank

def asMemoryReference : Except OperandError MemoryReference := operand.content .memoryReference

def asGeneric : Except OperandError String := operand.content .generic

def asMemoryDescriptor : Except OperandError MemoryDescriptor :=
  operand.content .memoryDescriptor

end Accessors

/-- The register file that the operand's own number indexes. -/
def regFile? (operand : Operand) : Option RegFile :=
  operand.kind.regFile?

/-- The operand's own register or predicate number. -/
def regNum? (operand : Operand) : Option RegNum :=
  operand.payload.regNum?

/-- Whether the operand is a register that reads as zero. -/
def isZeroRegister (operand : Operand) : Bool :=
  match operand.payload with
  | .register use => use.number == RegFile.zeroRegister
  | .uniformRegister use => use.number == RegFile.uniformZeroRegister
  | _ => false

/-- Whether the operand is a predicate that is always true, inverted or not. -/
def isTruePredicate (operand : Operand) : Bool :=
  match operand.payload with
  | .predicate use | .uniformPredicate use => use.isTrue
  | _ => false

/-- Equality of operands that compares floating-point literals as numbers. -/
def sameValue (left right : Operand) : Bool :=
  left.text == right.text && left.flags == right.flags &&
    left.sizeBytes == right.sizeBytes && left.payload.sameValue right.payload

end Operand

end GpuOperand

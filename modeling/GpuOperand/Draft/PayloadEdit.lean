import GpuOperand.Payload.Limits

/-!
# Edits of a pending payload

While an operand is being put together, its payload is pending: perhaps nothing
has been chosen yet, perhaps only some parts of a reference are known.  An edit
either starts a payload, replacing what was pending, or sets one part of a
reference.  Numbers arrive as decoded and are checked against their register
file before they are narrowed.
-/

namespace GpuOperand

/-- One step in putting a payload together. -/
inductive PayloadEdit where
  | integer (value : UInt64)
  | float (value : Double)
  | register (number : UInt32) (property : String)
  | uniformRegister (number : UInt32) (property : String)
  | predicate (number : UInt32)
  | uniformPredicate (number : UInt32)
  | generic (text : String)
  | memoryDescriptor (number : UInt32)
  /-- Start a constant bank reference without an offset. -/
  | constantBank (bank : UInt32)
  | bankImmOffset (offset : Int32)
  | bankRegOffset (number : UInt32)
  /-- Start a memory reference without any part. -/
  | memoryReference
  | referenceBase (number : UInt32) (modifier : RegModifier)
  | referenceUniformOffset (number : UInt32) (modifier : RegModifier)
  | referenceImmOffset (offset : Int32)
  | referenceDescriptor (number : UInt32)
  deriving DecidableEq

/-- What an edit leaves behind: the pending payload, and the edit's failure. -/
structure EditResult where
  pending : Option Payload
  failure : Option OperandError := none
  deriving DecidableEq

namespace PayloadEdit

/-- Start the payload of a legal number; an illegal one leaves the pending payload
alone. -/
def startWith (pending : Option Payload) (number : Except OperandError RegNum)
    (start : RegNum → Payload) : EditResult :=
  match number with
  | .ok number => { pending := some (start number) }
  | .error error => { pending, failure := some error }

/-- Set a part of the pending constant bank reference.  An offset means nothing
without the bank that it belongs to, so any other pending payload is a failure. -/
def onBank (pending : Option Payload)
    (update : ConstantBank → Except OperandError ConstantBank) : EditResult :=
  match pending with
  | some (.constantBank bank) =>
      match update bank with
      | .ok updated => { pending := some (.constantBank updated) }
      | .error error => { pending, failure := some error }
  | _ => { pending, failure := some .missingPayload }

/-- The pending memory reference.  Where anything else is pending, a part of a
reference starts an empty one. -/
def pendingReference : Option Payload → MemoryReference
  | some (.memoryReference reference) => reference
  | _ => {}

/-- Set a part of the pending memory reference. -/
def onReference (pending : Option Payload)
    (update : MemoryReference → Except OperandError MemoryReference) : EditResult :=
  let reference := pendingReference pending
  match update reference with
  | .ok updated => { pending := some (.memoryReference updated) }
  | .error error => { pending := some (.memoryReference reference), failure := some error }

/-- The effect of an edit on the pending payload. -/
def apply (edit : PayloadEdit) (pending : Option Payload) : EditResult :=
  match edit with
  | integer value => { pending := some (.integer value) }
  | float value => { pending := some (.float value) }
  | register number property =>
      startWith pending (RegFile.general.narrow .register "num" number)
        fun number => .register { number, property }
  | uniformRegister number property =>
      startWith pending (RegFile.uniform.narrow .uniformRegister "num" number)
        fun number => .uniformRegister { number, property }
  | predicate number =>
      startWith pending (RegFile.predicate.narrow .predicate "num" number)
        fun number => .predicate { number }
  | uniformPredicate number =>
      startWith pending (RegFile.uniformPredicate.narrow .uniformPredicate "num" number)
        fun number => .uniformPredicate { number }
  | generic text => { pending := some (.generic text) }
  | memoryDescriptor number =>
      startWith pending (RegFile.uniform.narrow .memoryDescriptor "ureg_num" number)
        fun register => .memoryDescriptor { register }
  | constantBank bank => { pending := some (.constantBank { bank }) }
  | bankImmOffset offset =>
      onBank pending fun bank => .ok { bank with immOffset := some offset }
  | bankRegOffset number =>
      onBank pending fun bank =>
        (RegFile.general.narrow .constantBank "reg_offset" number).map
          fun number => { bank with regOffset := some number }
  | memoryReference => { pending := some (.memoryReference {}) }
  | referenceBase number modifier =>
      onReference pending fun reference =>
        (RegFile.general.narrow .memoryReference "ra_num" number).map
          fun number => { reference with base := some { number, modifier } }
  | referenceUniformOffset number modifier =>
      onReference pending fun reference =>
        (RegFile.uniform.narrow .memoryReference "ur_num" number).map
          fun number => { reference with uniformOffset := some { number, modifier } }
  | referenceImmOffset offset =>
      onReference pending fun reference => .ok { reference with immOffset := some offset }
  | referenceDescriptor number =>
      onReference pending fun reference =>
        (RegFile.uniform.narrow .memoryReference "desc_ureg_num" number).map
          fun number => { reference with descriptor := some number }

end PayloadEdit

end GpuOperand

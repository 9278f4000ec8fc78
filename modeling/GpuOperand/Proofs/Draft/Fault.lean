import GpuOperand.Proofs.Draft.Run
import GpuOperand.Proofs.Payload.Numbers

/-!
# Faults of setters

A setter fails if it passes a number that its register file does not have, or sets an
offset while no constant bank is pending, and for nothing else.  Whether or not it fails,
no number that it leaves pending is out of range.
-/

namespace Except

variable {Error Value Result : Type}

/-- The error of a failed computation. -/
def error? : Except Error Value → Option Error
  | .ok _ => none
  | .error cause => some cause

@[simp]
theorem error?_map (outcome : Except Error Value) (transform : Value → Result) :
    (outcome.map transform).error? = outcome.error? := by
  cases outcome <;> rfl

end Except

namespace GpuOperand

/-- A number as an edit is given it, with what an error would say about it. -/
structure GivenNumber where
  kind : Kind
  field : String
  number : UInt32
  max : UInt32

def GivenNumber.fault? (given : GivenNumber) : Option OperandError :=
  if given.max < given.number then
    some (.outOfRange given.kind given.field given.number given.max)
  else
    none

theorem RegFile.error?_narrow (file : RegFile) (kind : Kind) (field : String)
    (number : UInt32) :
    (file.narrow kind field number).error? =
      GivenNumber.fault? ⟨kind, field, number, file.maxNum.toUInt32⟩ := by
  rw [narrow_eq, GivenNumber.fault?]
  by_cases legal : number ≤ file.maxNum.toUInt32
  · rw [if_pos legal, if_neg (UInt32.not_lt.mpr legal)]
    rfl
  · rw [if_neg legal, if_pos (UInt32.not_le.mp legal)]
    rfl

theorem RegFile.le_maxNum_of_narrow {file : RegFile} {kind : Kind} {field : String}
    {number : UInt32} {legal : RegNum} (narrowed : file.narrow kind field number = .ok legal) :
    legal ≤ file.maxNum := by
  rw [narrow_eq] at narrowed
  by_cases within : number ≤ file.maxNum.toUInt32
  · rw [if_pos within] at narrowed
    have bound : number.toNat ≤ file.maxNum.toNat := by
      simpa [UInt32.le_iff_toNat_le] using within
    rw [← Except.ok.inj narrowed, UInt8.le_iff_toNat_le, UInt32.toNat_toUInt8]
    exact Nat.le_trans (Nat.mod_le _ _) bound
  · rw [if_neg within] at narrowed
    contradiction

namespace PayloadEdit

/-- The number that an edit passes, if it passes one. -/
def given? : PayloadEdit → Option GivenNumber
  | register number _ => some ⟨.register, "num", number, 255⟩
  | uniformRegister number _ => some ⟨.uniformRegister, "num", number, 63⟩
  | predicate number => some ⟨.predicate, "num", number, 8⟩
  | uniformPredicate number => some ⟨.uniformPredicate, "num", number, 8⟩
  | memoryDescriptor number => some ⟨.memoryDescriptor, "ureg_num", number, 63⟩
  | bankRegOffset number => some ⟨.constantBank, "reg_offset", number, 255⟩
  | referenceBase number _ => some ⟨.memoryReference, "ra_num", number, 255⟩
  | referenceUniformOffset number _ => some ⟨.memoryReference, "ur_num", number, 63⟩
  | referenceDescriptor number => some ⟨.memoryReference, "desc_ureg_num", number, 63⟩
  | _ => none

/-- Whether an edit only makes sense on a pending constant bank. -/
def needsBank : PayloadEdit → Bool
  | bankImmOffset _ | bankRegOffset _ => true
  | _ => false

/-- What is wrong with an edit of a pending payload.  A missing bank comes before a
number that is too large. -/
def fault? (edit : PayloadEdit) (pending : Option Payload) : Option OperandError :=
  if edit.needsBank ∧ pending.map Payload.kind ≠ some .constantBank then
    some .missingPayload
  else
    edit.given?.bind GivenNumber.fault?

theorem failure_startWith (pending : Option Payload) (number : Except OperandError RegNum)
    (start : RegNum → Payload) :
    (startWith pending number start).failure = number.error? := by
  cases number <;> rfl

theorem failure_onReference (pending : Option Payload)
    (update : MemoryReference → Except OperandError MemoryReference) :
    (onReference pending update).failure =
      (update (pendingReference pending)).error? := by
  rw [onReference]
  cases update (pendingReference pending) <;> rfl

theorem failure_onBank {update : ConstantBank → Except OperandError ConstantBank}
    {fault : Option OperandError} (decided : ∀ bank, (update bank).error? = fault)
    (pending : Option Payload) :
    (onBank pending update).failure =
      if pending.map Payload.kind ≠ some .constantBank then some .missingPayload
      else fault := by
  cases pending with
  | none => rfl
  | some payload =>
      cases payload with
      | constantBank bank =>
          rw [← decided bank, onBank]
          cases update bank <;> rfl
      | _ => rfl

/-- Edits fail exactly for the faults that their arguments and the pending payload
have. -/
theorem failure_apply (edit : PayloadEdit) (pending : Option Payload) :
    (edit.apply pending).failure = edit.fault? pending := by
  cases edit with
  | bankImmOffset offset =>
      have decided : ∀ bank : ConstantBank,
          (.ok { bank with immOffset := some offset } :
            Except OperandError ConstantBank).error? = none := fun _ => rfl
      rw [apply, failure_onBank decided]
      simp [fault?, needsBank, given?]
  | bankRegOffset number =>
      have largest : RegFile.general.maxNum.toUInt32 = 255 := rfl
      rw [apply, failure_onBank (fun _ => by rw [Except.error?_map, RegFile.error?_narrow])]
      simp [fault?, needsBank, given?, largest]
  | register | uniformRegister | predicate | uniformPredicate | memoryDescriptor =>
      rw [apply, failure_startWith, RegFile.error?_narrow]
      rfl
  | referenceBase | referenceUniformOffset | referenceDescriptor =>
      rw [apply, failure_onReference, Except.error?_map, RegFile.error?_narrow]
      rfl
  | _ => rfl

theorem numbersExist_startWith {pending : Option Payload}
    {number : Except OperandError RegNum} {start : RegNum → Payload}
    (exist : ∀ payload ∈ pending, payload.NumbersExist)
    (legal : ∀ narrowed, number = .ok narrowed → (start narrowed).NumbersExist) :
    ∀ payload ∈ (startWith pending number start).pending, payload.NumbersExist := by
  cases number with
  | error _ => exact exist
  | ok narrowed =>
      rintro payload ⟨⟩
      exact legal narrowed rfl

theorem numbersExist_onBank {pending : Option Payload}
    {update : ConstantBank → Except OperandError ConstantBank}
    (exist : ∀ payload ∈ pending, payload.NumbersExist)
    (kept : ∀ bank updated, (Payload.constantBank bank).NumbersExist →
      update bank = .ok updated → (Payload.constantBank updated).NumbersExist) :
    ∀ payload ∈ (onBank pending update).pending, payload.NumbersExist := by
  unfold onBank
  split
  · rename_i bank
    cases updated : update bank with
    | error _ => exact exist
    | ok next =>
        rintro payload ⟨⟩
        exact kept bank next (exist _ rfl) updated
  · exact exist

/-- An empty reference has no number, so it does not matter whether a reference is
pending. -/
theorem numbersExist_onReference {pending : Option Payload}
    {update : MemoryReference → Except OperandError MemoryReference}
    (exist : ∀ payload ∈ pending, payload.NumbersExist)
    (kept : ∀ reference updated, (Payload.memoryReference reference).NumbersExist →
      update reference = .ok updated → (Payload.memoryReference updated).NumbersExist) :
    ∀ payload ∈ (onReference pending update).pending, payload.NumbersExist := by
  have before : (Payload.memoryReference (pendingReference pending)).NumbersExist := by
    unfold pendingReference
    split
    · exact exist _ rfl
    · simp [Payload.NumbersExist, Payload.numbers]
  rw [onReference]
  cases updated : update (pendingReference pending) with
  | error _ =>
      rintro payload ⟨⟩
      exact before
  | ok next =>
      rintro payload ⟨⟩
      exact kept _ next before updated

theorem numbersExist_referenceNumber {pending : Option Payload} {file : RegFile}
    {field : String} {number : UInt32}
    {update : MemoryReference → RegNum → MemoryReference}
    (exist : ∀ payload ∈ pending, payload.NumbersExist)
    (kept : ∀ reference legal, (Payload.memoryReference reference).NumbersExist →
      legal ≤ file.maxNum → (Payload.memoryReference (update reference legal)).NumbersExist) :
    ∀ payload ∈ (onReference pending fun reference =>
        (file.narrow .memoryReference field number).map (update reference)).pending,
      payload.NumbersExist := by
  apply numbersExist_onReference exist
  intro reference updated before outcome
  obtain ⟨legal, narrowed, rfl⟩ := Except.map_eq_ok_iff.mp outcome
  exact kept reference legal before (RegFile.le_maxNum_of_narrow narrowed)

/-- No edit, failing or not, leaves an illegal number behind. -/
theorem numbersExist_apply {pending : Option Payload}
    (exist : ∀ payload ∈ pending, payload.NumbersExist) (edit : PayloadEdit) :
    ∀ payload ∈ (edit.apply pending).pending, payload.NumbersExist := by
  cases edit with
  | integer | float | generic | constantBank | memoryReference =>
      rintro payload ⟨⟩
      simp [Payload.NumbersExist, Payload.numbers]
  | register | uniformRegister | predicate | uniformPredicate | memoryDescriptor =>
      apply numbersExist_startWith exist
      intro legal narrowed
      simpa [Payload.NumbersExist, Payload.numbers] using RegFile.le_maxNum_of_narrow narrowed
  | bankImmOffset offset =>
      apply numbersExist_onBank exist
      rintro bank updated before ⟨⟩
      exact before
  | bankRegOffset number =>
      apply numbersExist_onBank exist
      intro bank updated _ outcome
      obtain ⟨legal, narrowed, rfl⟩ := Except.map_eq_ok_iff.mp outcome
      simpa [Payload.NumbersExist, Payload.numbers] using RegFile.le_maxNum_of_narrow narrowed
  | referenceImmOffset offset =>
      apply numbersExist_onReference exist
      rintro reference updated before ⟨⟩
      exact before
  | referenceBase | referenceUniformOffset | referenceDescriptor =>
      apply numbersExist_referenceNumber exist
      intro reference legal before bound
      simp_all [Payload.NumbersExist, Payload.numbers, or_imp, forall_and]

end PayloadEdit

namespace Setter

/-- What is wrong with a setter of a draft, as far as it edits the payload. -/
def fault? (setter : Setter) (draft : Draft) : Option OperandError :=
  setter.edit?.bind (·.fault? draft.pending)

end Setter

namespace Draft

/-- A setter that fails is only noticed if no earlier one failed. -/
theorem failure_set (draft : Draft) (setter : Setter) :
    (draft.set setter).failure = draft.failure.or (setter.fault? draft) := by
  cases setter with
  | payload change =>
      change draft.failure.or (change.apply draft.pending).failure = _
      rw [PayloadEdit.failure_apply]
      rfl
  | _ => exact (Option.or_none).symm

end Draft

end GpuOperand

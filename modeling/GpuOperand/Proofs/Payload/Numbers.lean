import GpuOperand.Payload.Limits
import GpuOperand.Proofs.Text.Limit

/-!
# Numbers and buffers of payloads

Two things can be wrong with a payload: a number that is not in its register
file, and a buffer that is too long.  Validation looks for both, the numbers
first, and reports the first violation that it finds.  So a payload whose numbers
are all legal has only its buffer left to be refused for.
-/

namespace GpuOperand

/-- A number in a payload, with the name of its field and the file that it indexes. -/
structure NumberField where
  name : String
  file : RegFile
  number : RegNum

namespace NumberField

/-- The violation of a number field, if the number exceeds its file. -/
def violations (kind : Kind) (field : NumberField) : List OperandError :=
  if field.number ≤ field.file.maxNum then []
  else [field.file.outOfRange kind field.name field.number.toUInt32]

@[simp]
theorem violations_eq_nil_iff {kind : Kind} {field : NumberField} :
    field.violations kind = [] ↔ field.number ≤ field.file.maxNum := by
  simp [violations]

end NumberField

/-- What is reported about violations: the first one, if there are any. -/
def reportFirst : List OperandError → Except OperandError Unit
  | [] => .ok ()
  | violation :: _ => .error violation

section ReportFirst

variable {violations : List OperandError} {violation : OperandError}

theorem reportFirst_eq_ok_iff : reportFirst violations = .ok () ↔ violations = [] := by
  cases violations <;> simp [reportFirst]

theorem reportFirst_eq_error_iff :
    reportFirst violations = .error violation ↔ violations.head? = some violation := by
  cases violations <;> simp [reportFirst]

theorem reportFirst_nil : reportFirst [] = pure () :=
  rfl

/-- Later checks are made only if the earlier ones find nothing. -/
theorem reportFirst_append (earlier later : List OperandError) :
    reportFirst (earlier ++ later) =
      (reportFirst earlier >>= fun _ => reportFirst later) := by
  cases earlier <;> rfl

end ReportFirst

/-- A number that was narrowed before is narrowed again exactly if its file has
it. -/
theorem RegFile.narrow_toUInt32 (file : RegFile) (kind : Kind) (field : String)
    (number : RegNum) :
    file.narrow kind field number.toUInt32 =
      if number ≤ file.maxNum then .ok number
      else .error (file.outOfRange kind field number.toUInt32) := by
  have same : number.toUInt32 ≤ file.maxNum.toUInt32 ↔ number ≤ file.maxNum := by
    simp [UInt32.le_iff_toNat_le, UInt8.le_iff_toNat_le]
  rw [narrow_eq, UInt8.toUInt8_toUInt32]
  simp only [same]

theorem RegFile.checkNumber_eq (file : RegFile) (kind : Kind) (name : String)
    (number : RegNum) :
    file.checkNumber kind name number =
      reportFirst (NumberField.violations kind ⟨name, file, number⟩) := by
  rw [checkNumber, narrow_toUInt32]
  by_cases legal : number ≤ file.maxNum <;>
    simp [legal, NumberField.violations, reportFirst, Except.map]

/-- The violation of a text field, if the text is too long. -/
def lengthViolations (field text : String) : List OperandError :=
  if text.length ≤ maxChars then [] else [.textTooLong field text.length maxChars]

theorem checkLength_eq (field text : String) :
    checkLength field text = reportFirst (lengthViolations field text) := by
  by_cases fits : text.length ≤ maxChars <;>
    simp [checkLength, lengthViolations, fits, reportFirst]

namespace Payload

/-- The numbers of a payload, in field order. -/
def numbers : Payload → List NumberField
  | register use => [⟨"num", .general, use.number⟩]
  | uniformRegister use => [⟨"num", .uniform, use.number⟩]
  | predicate use => [⟨"num", .predicate, use.number⟩]
  | uniformPredicate use => [⟨"num", .uniformPredicate, use.number⟩]
  | constantBank bank => (bank.regOffset.map (⟨"reg_offset", .general, ·⟩)).toList
  | memoryReference reference =>
      (reference.base.map (⟨"ra_num", .general, ·.number⟩)).toList ++
        (reference.uniformOffset.map (⟨"ur_num", .uniform, ·.number⟩)).toList ++
        (reference.descriptor.map (⟨"desc_ureg_num", .uniform, ·⟩)).toList
  | memoryDescriptor descriptor => [⟨"ureg_num", .uniform, descriptor.register⟩]
  | integer _ | float _ | generic _ => []

/-- The field of a payload that holds a text of bounded length, and the text. -/
def buffer? : Payload → Option (String × String)
  | register use | uniformRegister use => some ("prop", use.property)
  | generic text => some ("generic", text)
  | _ => none

/-- Every number of the payload is in its register file. -/
def NumbersExist (payload : Payload) : Prop :=
  ∀ field ∈ payload.numbers, field.number ≤ field.file.maxNum

/-- The violations of the numbers, in field order. -/
def numberViolations (payload : Payload) : List OperandError :=
  payload.numbers.flatMap (NumberField.violations payload.kind)

def bufferViolations (payload : Payload) : List OperandError :=
  payload.buffer?.elim [] fun buffer => lengthViolations buffer.1 buffer.2

/-- All limits that a payload violates. -/
def violations (payload : Payload) : List OperandError :=
  payload.numberViolations ++ payload.bufferViolations

/-- Numbers are checked in field order, and the buffer after them. -/
theorem validate_eq (payload : Payload) :
    payload.validate = reportFirst payload.violations := by
  rw [violations, numberViolations, bufferViolations]
  cases payload with
  | integer | float => rfl
  | generic text => exact checkLength_eq "generic" text
  | register | uniformRegister | predicate | uniformPredicate | memoryDescriptor =>
      simp [validate, numbers, buffer?, kind, Kind.regFile?, RegFile.checkNumber_eq,
        checkLength_eq, reportFirst_append]
  | constantBank bank =>
      cases offset : bank.regOffset <;>
        simp [validate, numbers, buffer?, kind, offset, RegFile.checkNumber_eq, reportFirst_nil]
  | memoryReference reference =>
      obtain ⟨base, uniformOffset, immOffset, descriptor⟩ := reference
      cases base <;> cases uniformOffset <;> cases descriptor <;>
        simp [validate, numbers, buffer?, kind, RegFile.checkNumber_eq, reportFirst_nil,
          reportFirst_append]

theorem validate_eq_ok_iff {payload : Payload} :
    payload.validate = .ok () ↔ payload.violations = [] := by
  rw [validate_eq, reportFirst_eq_ok_iff]

theorem validate_eq_error_iff {payload : Payload} {violation : OperandError} :
    payload.validate = .error violation ↔ payload.violations.head? = some violation := by
  rw [validate_eq, reportFirst_eq_error_iff]

theorem numberViolations_eq_nil_iff {payload : Payload} :
    payload.numberViolations = [] ↔ payload.NumbersExist := by
  simp only [numberViolations, List.flatMap_eq_nil_iff, NumberField.violations_eq_nil_iff]
  rfl

theorem numbersExist_of_valid {payload : Payload} (valid : payload.validate = .ok ()) :
    payload.NumbersExist := by
  rw [validate_eq_ok_iff, violations, List.append_eq_nil_iff] at valid
  exact numberViolations_eq_nil_iff.mp valid.1

/-- Where all numbers are legal, at most the buffer violates its limit. -/
theorem violations_of_numbersExist {payload : Payload} (exist : payload.NumbersExist) :
    payload.violations = payload.bufferViolations := by
  rw [violations, numberViolations_eq_nil_iff.mpr exist, List.nil_append]

theorem validate_eq_error_iff_of_numbersExist {payload : Payload}
    (exist : payload.NumbersExist) {error : OperandError} :
    payload.validate = .error error ↔
      ∃ field text, payload.buffer? = some (field, text) ∧ maxChars < text.length ∧
        error = .textTooLong field text.length maxChars := by
  rw [validate_eq_error_iff, violations_of_numbersExist exist, bufferViolations]
  cases payload.buffer? with
  | none => simp
  | some buffer =>
      obtain ⟨field, text⟩ := buffer
      rcases Nat.lt_or_ge maxChars text.length with long | fits
      · have violated : lengthViolations field text =
            [.textTooLong field text.length maxChars] := if_neg (Nat.not_le.mpr long)
        constructor
        · intro first
          rw [Option.elim_some, violated] at first
          exact ⟨field, text, rfl, long, (Option.some.inj first).symm⟩
        · rintro ⟨_, _, ⟨⟩, _, rfl⟩
          exact congrArg List.head? violated
      · have unviolated : lengthViolations field text = [] := if_pos fits
        simp [unviolated, Nat.not_lt.mpr fits]

theorem validate_eq_ok_iff_of_numbersExist {payload : Payload}
    (exist : payload.NumbersExist) :
    payload.validate = .ok () ↔
      ∀ field text, payload.buffer? = some (field, text) → text.length ≤ maxChars := by
  rw [validate_eq_ok_iff, violations_of_numbersExist exist, bufferViolations]
  cases payload.buffer? with
  | none => simp
  | some buffer =>
      obtain ⟨field, text⟩ := buffer
      simp [lengthViolations]

end Payload

end GpuOperand

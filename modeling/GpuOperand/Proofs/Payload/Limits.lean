import GpuOperand.Proofs.Operand.WellFormed
import GpuOperand.Proofs.Payload.Numbers

/-!
# Limits field by field

Which fields of a payload are limited, and by how much, is a short table: the numbers of
uniform registers and of predicates, and every text.  General purpose registers, offsets,
banks and literals can hold nothing illegal.  A payload is accepted exactly if each of its
fields is within its limit.  Otherwise the first one that is not is reported, with the
value that it has and the largest that it may have.
-/

namespace GpuOperand

/-- A field of a payload that may hold too large a number or too long a text. -/
inductive LimitedField where
  | number (name : String) (value max : RegNum)
  | text (name content : String)

namespace LimitedField

/-- The value of a number, or how many characters a text has. -/
def measure : LimitedField → Nat
  | number _ value _ => value.toNat
  | text _ content => content.length

def limit : LimitedField → Nat
  | number _ _ max => max.toNat
  | text .. => 256

/-- What is reported about a field of a payload of this kind if it exceeds its limit. -/
def complaint (kind : Kind) : LimitedField → OperandError
  | number name value max => .outOfRange kind name value.toUInt32 max.toUInt32
  | text name content => .textTooLong name content.length 256

def complaints (kind : Kind) (field : LimitedField) : List OperandError :=
  if field.measure ≤ field.limit then [] else [field.complaint kind]

theorem numberViolations_eq (kind : Kind) (name : String) (file : RegFile) (value : RegNum) :
    NumberField.violations kind ⟨name, file, value⟩ =
      complaints kind (number name value file.maxNum) := by
  by_cases legal : value ≤ file.maxNum
  · have within : value.toNat ≤ file.maxNum.toNat := UInt8.le_iff_toNat_le.mp legal
    rw [NumberField.violations, if_pos legal]
    exact (if_pos within).symm
  · have exceeds : ¬ value.toNat ≤ file.maxNum.toNat := mt UInt8.le_iff_toNat_le.mpr legal
    rw [NumberField.violations, if_neg legal]
    exact (if_neg exceeds).symm

theorem lengthViolations_eq (kind : Kind) (name content : String) :
    lengthViolations name content = complaints kind (text name content) :=
  rfl

variable {kind : Kind} {field : LimitedField}

theorem complaints_eq_nil_iff : complaints kind field = [] ↔ field.measure ≤ field.limit := by
  simp [complaints]

theorem head?_complaints_eq_some_iff {error : OperandError} :
    (complaints kind field).head? = some error ↔
      field.limit < field.measure ∧ error = field.complaint kind := by
  rcases Nat.lt_or_ge field.limit field.measure with exceeds | within
  · simp [complaints, Nat.not_le.mpr exceeds, exceeds, eq_comm]
  · simp [complaints, within, Nat.not_lt.mpr within]

end LimitedField

/-- The error is about the text of an operand, not about its payload. -/
def OperandError.ConcernsText (error : OperandError) : Prop :=
  ∃ length limit, error = .textTooLong "text" length limit

namespace Payload

/-- The fields that can exceed a limit, in the order in which they are checked. -/
def limitedFields : Payload → List LimitedField
  | register use => [.text "prop" use.property]
  | uniformRegister use => [.number "num" use.number 63, .text "prop" use.property]
  | predicate use | uniformPredicate use => [.number "num" use.number 8]
  | memoryReference reference =>
      (reference.uniformOffset.map (.number "ur_num" ·.number 63)).toList ++
        (reference.descriptor.map (.number "desc_ureg_num" · 63)).toList
  | memoryDescriptor descriptor => [.number "ureg_num" descriptor.register 63]
  | generic text => [.text "generic" text]
  | integer _ | float _ | constantBank _ => []

theorem numberViolations_general (kind : Kind) (name : String) (number : RegNum) :
    NumberField.violations kind ⟨name, .general, number⟩ = [] := by
  -- The file has 256 registers, as many as there are numbers.
  rw [NumberField.violations_eq_nil_iff, UInt8.le_iff_toNat_le]
  exact Nat.le_of_lt_succ number.toNat_lt

theorem violations_eq_flatMap (payload : Payload) :
    payload.violations =
      payload.limitedFields.flatMap (LimitedField.complaints payload.kind) := by
  have uniform (kind : Kind) (name : String) (number : RegNum) :
      NumberField.violations kind ⟨name, .uniform, number⟩ =
        LimitedField.complaints kind (.number name number 63) :=
    LimitedField.numberViolations_eq kind name .uniform number
  rw [violations, numberViolations, bufferViolations]
  cases payload with
  | integer | float => rfl
  | generic text => exact (List.append_nil _).symm
  | register use =>
      simp [numbers, buffer?, limitedFields, numberViolations_general,
        LimitedField.lengthViolations_eq .register, kind]
  | uniformRegister use =>
      simp [numbers, buffer?, limitedFields, uniform,
        LimitedField.lengthViolations_eq .uniformRegister, kind]
  | predicate | uniformPredicate =>
      simp [numbers, buffer?, limitedFields, LimitedField.numberViolations_eq, kind]
      rfl
  | constantBank bank =>
      cases offset : bank.regOffset <;>
        simp [numbers, buffer?, limitedFields, offset, numberViolations_general]
  | memoryReference reference =>
      obtain ⟨base, uniformOffset, immOffset, descriptor⟩ := reference
      cases base <;> cases uniformOffset <;> cases descriptor <;>
        simp [numbers, buffer?, limitedFields, kind, uniform, numberViolations_general]
  | memoryDescriptor descriptor => simp [numbers, buffer?, limitedFields, uniform, kind]

theorem validate_eq_ok_iff_measure_le {payload : Payload} :
    payload.validate = .ok () ↔
      ∀ field ∈ payload.limitedFields, field.measure ≤ field.limit := by
  simp only [validate_eq_ok_iff, violations_eq_flatMap, List.flatMap_eq_nil_iff,
    LimitedField.complaints_eq_nil_iff]

theorem validate_eq_error_iff_first {payload : Payload} {error : OperandError} :
    payload.validate = .error error ↔
      ∃ earlier field later,
        payload.limitedFields = earlier ++ field :: later ∧
          (∀ other ∈ earlier, other.measure ≤ other.limit) ∧
          field.limit < field.measure ∧ error = field.complaint payload.kind := by
  rw [validate_eq_error_iff, violations_eq_flatMap, List.head?_flatMap,
    List.findSome?_eq_some_iff]
  simp only [LimitedField.head?_complaints_eq_some_iff, List.head?_eq_none_iff,
    LimitedField.complaints_eq_nil_iff]
  constructor
  · rintro ⟨earlier, field, later, fields, reported, within⟩
    exact ⟨earlier, field, later, fields, within, reported⟩
  · rintro ⟨earlier, field, later, fields, within, reported⟩
    exact ⟨earlier, field, later, fields, reported, within⟩

theorem not_concernsText_complaint {payload : Payload} {field : LimitedField}
    (limited : field ∈ payload.limitedFields) (kind : Kind) :
    ¬ (field.complaint kind).ConcernsText := by
  rintro ⟨length, limit, reported⟩
  cases field with
  | number name value max => cases reported
  | text name content =>
      -- The texts in payloads go by other names than the text of the operand.
      have other : name = "prop" ∨ name = "generic" := by
        cases payload <;> simp_all [limitedFields]
      obtain ⟨rfl, _, _⟩ := OperandError.textTooLong.inj reported
      revert other
      decide

theorem not_concernsText_of_validate {payload : Payload} {violation : OperandError}
    (violated : payload.validate = .error violation) : ¬ violation.ConcernsText := by
  obtain ⟨earlier, field, later, fields, _, _, rfl⟩ := validate_eq_error_iff_first.mp violated
  have limited : field ∈ payload.limitedFields := by
    rw [fields]
    exact List.mem_append_right _ List.mem_cons_self
  exact not_concernsText_complaint limited payload.kind

/-- What else can go wrong when an operand is made is about its text. -/
theorem exists_violation_iff_refused (payload : Payload) (header : Header)
    (policy : TextPolicy) :
    (∃ error, (Operand.ofParts header payload policy).outcome = .error error ∧
        ¬ error.ConcernsText) ↔
      ∃ violation, payload.validate = .error violation := by
  cases validated : payload.validate with
  | error violation =>
      rw [Operand.ofParts_of_violation validated]
      exact ⟨fun _ => ⟨violation, rfl⟩,
        fun _ => ⟨violation, rfl, not_concernsText_of_validate validated⟩⟩
  | ok =>
      constructor
      · rintro ⟨error, refused, other⟩
        rw [Operand.ofParts_of_valid validated, Logged.map] at refused
        by_cases admits : policy.Admits header.text
        · rw [BoundedText.outcome_ofString_eq_ok_iff.mpr ⟨admits, rfl⟩] at refused
          cases refused
        · rw [BoundedText.outcome_ofString_of_not_admits admits] at refused
          cases refused
          exact absurd ⟨_, _, rfl⟩ other
      · rintro ⟨violation, ⟨⟩⟩

/-- A payload is valid if and only if each of its fields is within its limit.  An invalid
one is reported by the first field that is not, and that is the only reason besides its
text for which an operand cannot be made. -/
theorem validate_decidedByLimits (payload : Payload) :
    (payload.validate = .ok () ↔
        ∀ field ∈ payload.limitedFields, field.measure ≤ field.limit) ∧
      (∀ error, payload.validate = .error error ↔
        ∃ earlier field later,
          payload.limitedFields = earlier ++ field :: later ∧
            (∀ other ∈ earlier, other.measure ≤ other.limit) ∧
            field.limit < field.measure ∧ error = field.complaint payload.kind) ∧
      ∀ header policy,
        (∃ error, (Operand.ofParts header payload policy).outcome = .error error ∧
            ¬ error.ConcernsText) ↔
          ∃ field ∈ payload.limitedFields, field.limit < field.measure := by
  refine ⟨validate_eq_ok_iff_measure_le, fun error => validate_eq_error_iff_first, ?_⟩
  intro header policy
  rw [exists_violation_iff_refused]
  constructor
  · rintro ⟨violation, violated⟩
    obtain ⟨earlier, field, later, fields, _, exceeds, _⟩ :=
      validate_eq_error_iff_first.mp violated
    exact ⟨field, by simp [fields], exceeds⟩
  · rintro ⟨field, limited, exceeds⟩
    cases validated : payload.validate with
    | error violation => exact ⟨violation, rfl⟩
    | ok =>
        have within := validate_eq_ok_iff_measure_le.mp validated field limited
        exact absurd exceeds (Nat.not_lt.mpr within)

/-- Of two uniform registers that do not exist, the one added to the base is reported. -/
example :
    (memoryReference
        { base := some ⟨255, .x4⟩, uniformOffset := some ⟨64, .plain⟩,
          descriptor := some 200 }).validate =
      .error (.outOfRange .memoryReference "ur_num" 64 63) := by
  rfl

end Payload

end GpuOperand

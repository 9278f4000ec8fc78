import GpuOperand.Proofs.Draft.Fault
import GpuOperand.Proofs.Payload.Limits
import GpuOperand.Proofs.Session

/-!
# Soundness of drafts

Whatever is set on a draft, and whether or not the setter fails, three things stay true.  The
numbers that are pending are in their register files, a text that is remembered as cut uses up
its limit, and a failure that is kept is one that setters have.  So when a draft is built, all
its numbers were checked before.  The only number that it reports as out of range is one that
a setter refused; without such a failure, nothing but its buffer and its text is left to be
refused.
-/

namespace GpuOperand

/-- The errors for which setters fail. -/
inductive OperandError.CausedBySetter : OperandError → Prop where
  | missingPayload : CausedBySetter .missingPayload
  | outOfRange (kind : Kind) (field : String) {value max : UInt32} (exceeds : max < value) :
      CausedBySetter (.outOfRange kind field value max)

theorem GivenNumber.causedBySetter_of_fault? {given : GivenNumber} {error : OperandError}
    (failed : given.fault? = some error) : error.CausedBySetter := by
  unfold fault? at failed
  split at failed
  · rename_i exceeds
    obtain rfl := Option.some.inj failed
    exact .outOfRange given.kind given.field exceeds
  · contradiction

theorem PayloadEdit.causedBySetter_of_fault? {edit : PayloadEdit} {pending : Option Payload}
    {error : OperandError} (failed : edit.fault? pending = some error) :
    error.CausedBySetter := by
  unfold fault? at failed
  split at failed
  · obtain rfl := Option.some.inj failed
    exact .missingPayload
  · obtain ⟨given, _, faulty⟩ := Option.bind_eq_some_iff.mp failed
    exact GivenNumber.causedBySetter_of_fault? faulty

theorem Setter.causedBySetter_of_fault? {setter : Setter} {draft : Draft} {error : OperandError}
    (failed : setter.fault? draft = some error) : error.CausedBySetter := by
  obtain ⟨edit, _, faulty⟩ := Option.bind_eq_some_iff.mp failed
  exact PayloadEdit.causedBySetter_of_fault? faulty

namespace Payload

variable {payload : Payload}

/-- A number with a limit indexes a register file that ends there. -/
theorem exists_numbers_of_limited {name : String} {value max : RegNum}
    (limited : .number name value max ∈ payload.limitedFields) :
    ∃ field ∈ payload.numbers, field.number = value ∧ field.file.maxNum = max := by
  cases payload with
  | register | integer | float | constantBank | generic => simp [limitedFields] at limited
  | uniformRegister | predicate | uniformPredicate | memoryDescriptor =>
      simp only [limitedFields, List.mem_cons, LimitedField.number.injEq, reduceCtorEq,
        List.not_mem_nil, or_false] at limited
      obtain ⟨rfl, rfl, rfl⟩ := limited
      exact ⟨_, List.mem_singleton_self _, rfl, rfl⟩
  | memoryReference reference =>
      rcases List.mem_append.mp limited with inOffset | inDescriptor
      · obtain ⟨offset, present, ⟨⟩⟩ :=
          Option.map_eq_some_iff.mp (Option.mem_toList.mp inOffset)
        exact ⟨⟨"ur_num", .uniform, offset.number⟩, by simp [numbers, present], rfl, rfl⟩
      · obtain ⟨_, present, ⟨⟩⟩ :=
          Option.map_eq_some_iff.mp (Option.mem_toList.mp inDescriptor)
        exact ⟨⟨"desc_ureg_num", .uniform, value⟩, by simp [numbers, present], rfl, rfl⟩

theorem NumbersExist.le_of_limited (exist : payload.NumbersExist) {name : String}
    {value max : RegNum} (limited : .number name value max ∈ payload.limitedFields) :
    value ≤ max := by
  obtain ⟨field, member, rfl, rfl⟩ := exists_numbers_of_limited limited
  exact exist field member

theorem NumbersExist.validate_ne_outOfRange (exist : payload.NumbersExist) (kind : Kind)
    (field : String) (value max : UInt32) :
    payload.validate ≠ .error (.outOfRange kind field value max) := by
  intro violated
  obtain ⟨_, _, _, _, ⟨⟩⟩ := (validate_eq_error_iff_of_numbersExist exist).mp violated

end Payload

namespace Draft

/-- What holds of a draft however it was filled in. -/
structure Sound (draft : Draft) : Prop where
  numbers : ∀ payload ∈ draft.pending, payload.NumbersExist
  text : draft.textTruncated = true → draft.header.text.length = maxChars
  failure : ∀ error ∈ draft.failure, error.CausedBySetter

variable {draft : Draft}

theorem sound_start (policy : TextPolicy) : (start policy).Sound where
  numbers := by simp [start]
  text := by simp [start]
  failure := by simp [start]

theorem sound_toDraft {operand : Operand} (wellFormed : operand.WellFormed) :
    operand.toDraft.Sound where
  numbers := by
    rintro payload ⟨⟩
    exact Payload.numbersExist_of_valid wellFormed.valid
  text := wellFormed.text.length_of_truncated
  failure := by simp [Operand.toDraft]

/-- No setter breaks soundness, not even one that fails. -/
theorem Sound.set (sound : draft.Sound) (setter : Setter) : (draft.set setter).Sound where
  numbers := by
    cases setter with
    | payload change => exact PayloadEdit.numbersExist_apply sound.numbers change
    | _ => exact sound.numbers
  text := by
    intro truncated
    rw [textTruncated_set, Bool.and_eq_true, Option.isNone_iff_eq_none] at truncated
    obtain ⟨before, unwritten⟩ := truncated
    have kept : (draft.set setter).read .text = draft.read .text := by
      rw [read_set, unwritten, Option.getD_none]
    exact (congrArg String.length kept).trans (sound.text before)
  failure := by
    intro error failed
    rw [failure_set] at failed
    rcases Option.or_eq_some_iff.mp failed with earlier | ⟨_, new⟩
    · exact sound.failure error earlier
    · exact Setter.causedBySetter_of_fault? new

theorem Sound.run (sound : draft.Sound) (setters : List Setter) : (draft.run setters).Sound := by
  induction setters generalizing draft with
  | nil => exact sound
  | cons setter rest ih => exact ih (sound.set setter)

theorem Constructible.sound (constructible : draft.Constructible) : draft.Sound := by
  obtain ⟨operations, member⟩ := constructible
  have passes := (Session.holds_run Session.respected_lineage operations).drafts draft member
  cases passes with
  | fresh policy setters => exact (sound_start policy).run setters
  | reopened lineage operand setters made =>
      exact (sound_toDraft (Lineage.wellFormed_of_outcome made)).run setters

/-- All numbers that sessions leave pending are legal. -/
theorem Constructible.numbersExist (constructible : draft.Constructible) :
    ∀ payload ∈ draft.pending, payload.NumbersExist :=
  constructible.sound.numbers

/-- Why a draft is refused although none of its setters failed. -/
inductive RefusedFor (draft : Draft) : OperandError → Prop where
  | noPayload (none : draft.pending = none) : draft.RefusedFor .missingPayload
  | longBuffer (payload : Payload) (field text : String)
      (pending : draft.pending = some payload)
      (buffer : payload.buffer? = some (field, text)) (long : maxChars < text.length) :
      draft.RefusedFor (.textTooLong field text.length maxChars)
  | longText (payload : Payload) (pending : draft.pending = some payload)
      (fits : ∀ field text, payload.buffer? = some (field, text) → text.length ≤ maxChars)
      (reject : draft.policy = .reject) (long : maxChars < draft.header.text.length) :
      draft.RefusedFor (.textTooLong "text" draft.header.text.length maxChars)

theorem payload_edited_eq_ok_iff (unfailed : draft.failure = none) {payload : Payload} :
    draft.edited.payload = .ok payload ↔ draft.pending = some payload := by
  rw [EditResult.payload_eq_ok_iff]
  constructor
  · exact congrArg EditResult.pending
  · intro pending
    rw [edited, unfailed, pending]

/-- Without a failed setter, a draft of legal numbers can be refused for three
reasons. -/
theorem outcome_build_eq_error_iff (unfailed : draft.failure = none)
    (exist : ∀ payload ∈ draft.pending, payload.NumbersExist) {error : OperandError} :
    draft.build.outcome = .error error ↔ draft.RefusedFor error := by
  rw [outcome_build]
  simp only [Except.bind_eq_error_iff, Except.map_eq_error_iff,
    payload_edited_eq_ok_iff unfailed]
  constructor
  · rintro (unmade | ⟨payload, pending, violated | ⟨_, valid, refused⟩⟩)
    · rcases EditResult.payload_eq_error_iff.mp unmade with kept | ⟨_, none, rfl⟩
      · rw [edited, unfailed] at kept
        contradiction
      · exact .noPayload none
    · obtain ⟨field, text, buffer, long, rfl⟩ :=
        (Payload.validate_eq_error_iff_of_numbersExist (exist payload pending)).mp violated
      exact .longBuffer payload field text pending buffer long
    · obtain ⟨reject, long, rfl⟩ := takenText_eq_error_iff.mp refused
      have fits := (Payload.validate_eq_ok_iff_of_numbersExist (exist payload pending)).mp valid
      exact .longText payload pending fits reject long
  · intro refused
    cases refused with
    | noPayload none =>
        exact Or.inl (EditResult.payload_eq_error_iff.mpr (Or.inr ⟨unfailed, none, rfl⟩))
    | longBuffer payload field text pending buffer long =>
        have violated :=
          (Payload.validate_eq_error_iff_of_numbersExist (exist payload pending)).mpr
            ⟨field, text, buffer, long, rfl⟩
        exact Or.inr ⟨payload, pending, Or.inl violated⟩
    | longText payload pending fits reject long =>
        have valid :=
          (Payload.validate_eq_ok_iff_of_numbersExist (exist payload pending)).mpr fits
        have refused := takenText_eq_error_iff.mpr ⟨reject, long, rfl⟩
        exact Or.inr ⟨payload, pending, Or.inr ⟨(), valid, refused⟩⟩

/-- Building a sound draft finds no number out of range itself. -/
theorem Sound.failure_of_outOfRange (sound : draft.Sound) {kind : Kind} {field : String}
    {value max : UInt32}
    (refused : draft.build.outcome = .error (.outOfRange kind field value max)) :
    draft.failure = some (.outOfRange kind field value max) := by
  cases kept : draft.failure with
  | some failure =>
      rw [build_of_failure kept] at refused
      exact congrArg some (Except.error.inj refused)
  | none =>
      -- None of the three reasons is about a number.
      cases (outcome_build_eq_error_iff kept sound.numbers).mp refused

/-- Every draft of a session is sound.  So its pending numbers are within their limits, and
validation never refuses one of them: if a draft cannot be built because of a number, a setter
has refused that number and the draft has kept the failure. -/
theorem checkedBySetters (constructible : draft.Constructible) :
    draft.Sound ∧
      (∀ payload ∈ draft.pending,
        (∀ name value max, .number name value max ∈ payload.limitedFields → value ≤ max) ∧
          ∀ kind field value max,
            payload.validate ≠ .error (.outOfRange kind field value max)) ∧
      ∀ kind field value max,
        draft.build.outcome = .error (.outOfRange kind field value max) →
          draft.failure = some (.outOfRange kind field value max) := by
  have sound := constructible.sound
  refine ⟨sound, ?_, fun _ _ _ _ => sound.failure_of_outOfRange⟩
  intro payload pending
  have exist := sound.numbers payload pending
  exact ⟨fun _ _ _ => exist.le_of_limited, exist.validate_ne_outOfRange⟩

/-- A part of a reference is refused while a bank is pending beside a text that was cut; the
empty reference that it leaves stands for no number. -/
theorem checkedBySetters_cutText :
    let operand : Operand :=
      { text := ⟨String.ofList (List.replicate 256 'c'), true⟩, flags := {}, sizeBytes := 4
        payload := .constantBank { bank := 3, regOffset := some 255 } }
    let draft := operand.toDraft.run
      [.payload (.referenceDescriptor 64), .negated true, .payload (.referenceBase 300 .x4)]
    draft.Constructible ∧ draft.pending = some (.memoryReference {}) ∧
      draft.textTruncated = true ∧ draft.header.text.length = 256 ∧
      draft.build.outcome = .error (.outOfRange .memoryReference "desc_ureg_num" 64 63) ∧
      draft.failure = some (.outOfRange .memoryReference "desc_ureg_num" 64 63) := by
  intro operand draft
  have full : operand.text.value.length = maxChars := by
    rw [String.length_ofList, List.length_replicate]
    rfl
  have made : operand.Constructible :=
    Operand.WellFormed.constructible ⟨rfl, Nat.le_of_eq full, fun _ => full⟩
  have constructible : draft.Constructible := made.toDraft.run _
  obtain ⟨sound, _, refused⟩ := checkedBySetters constructible
  have reported : draft.build.outcome =
      .error (.outOfRange .memoryReference "desc_ureg_num" 64 63) := rfl
  exact ⟨constructible, rfl, rfl, sound.text rfl, reported, refused _ _ _ _ reported⟩

end Draft

end GpuOperand

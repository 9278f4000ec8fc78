import GpuOperand.Proofs.Draft.Spelling
import GpuOperand.Proofs.Payload.Numbers

/-!
# What the policy decides

The policy matters for nothing but a text that is too long beside a payload that is
valid: it is refused, or cut with a warning that quotes the refusal.  In all other cases
both policies lead to the same operand or the same error, silently.  The limits of a
payload come before that of the text, and no policy relaxes them.
-/

namespace GpuOperand

theorem Payload.exists_violation_of_longBuffer {payload : Payload} {field text : String}
    (buffer : payload.buffer? = some (field, text)) (long : maxChars < text.length) :
    ∃ violation, payload.validate = .error violation := by
  cases validated : payload.validate with
  | error violation => exact ⟨violation, rfl⟩
  | ok =>
      have exist := numbersExist_of_valid validated
      have fits := (validate_eq_ok_iff_of_numbersExist exist).mp validated field text buffer
      exact absurd long (Nat.not_lt.mpr fits)

namespace Operand

/-- How the policy affects what is made of a header and a payload, where the operand is
marked as cut in any case if `marked` says so. -/
structure DecidedByPolicy (header : Header) (payload : Payload) (marked : Bool)
    (made : TextPolicy → Logged OperandError Operand) : Prop where
  invalid : ∀ violation, payload.validate = .error violation →
    ∀ policy, made policy = .fail violation
  longBuffer : ∀ field text, payload.buffer? = some (field, text) →
    maxChars < text.length → ∃ violation, ∀ policy, made policy = .fail violation
  fitting : payload.validate = .ok () → header.text.length ≤ maxChars →
    ∀ policy, made policy = .ok
      { text := ⟨header.text, marked⟩, flags := header.flags,
        sizeBytes := header.sizeBytes, payload }
  refused : payload.validate = .ok () → maxChars < header.text.length →
    made .reject = .fail (.textTooLong "text" header.text.length maxChars)
  cut : payload.validate = .ok () → maxChars < header.text.length →
    ∃ warning : Notice,
      made .truncate =
        ⟨.ok { text := ⟨String.ofList (header.text.toList.take maxChars), true⟩,
               flags := header.flags, sizeBytes := header.sizeBytes, payload },
          [warning]⟩ ∧
        warning.level = .warning ∧
        warning.message =
          (OperandError.textTooLong "text" header.text.length maxChars).message ++
            "; truncating"

theorem decidedByPolicy_map_markTruncated (header : Header) (payload : Payload)
    (marked : Bool) :
    DecidedByPolicy header payload marked fun policy =>
      (ofParts header payload policy).map (markTruncated · marked) := by
  have invalid : ∀ violation, payload.validate = .error violation →
      ∀ policy, (ofParts header payload policy).map (markTruncated · marked) =
        .fail violation := by
    intro violation violated policy
    rw [ofParts_of_violation violated, Logged.map_fail]
  constructor
  · exact invalid
  · intro field text buffer long
    obtain ⟨violation, violated⟩ := Payload.exists_violation_of_longBuffer buffer long
    exact ⟨violation, invalid violation violated⟩
  · intro valid fits policy
    rw [ofParts_of_valid valid, BoundedText.ofString_of_fits fits, Logged.map_ok,
      Logged.map_ok, markTruncated, Bool.false_or]
  · intro valid long
    rw [ofParts_of_valid valid, BoundedText.ofString_reject_of_long long, Logged.map_fail,
      Logged.map_fail]
  · intro valid long
    refine ⟨.textTruncated (.textTooLong "text" header.text.length maxChars), ?_, rfl, rfl⟩
    rw [ofParts_of_valid valid, BoundedText.ofString_truncate_of_long long]
    rfl

/-- The policy decides about texts that are too long and nothing else, both where an
operand is made at once and where it is built from a draft.  The mark of a draft whose
text was cut before passes to the operand under either policy. -/
theorem decidedByPolicy :
    (∀ header payload,
        DecidedByPolicy header payload false fun policy => ofParts header payload policy) ∧
      ∀ (draft : Draft) (payload : Payload),
        draft.failure = none → draft.pending = some payload →
          DecidedByPolicy draft.header payload draft.textTruncated fun policy =>
            (draft.set (.policy policy)).build := by
  constructor
  · intro header payload
    simpa only [map_markTruncated_false] using
      decidedByPolicy_map_markTruncated header payload false
  · intro draft payload unfailed pending
    have built : (fun policy => (draft.set (.policy policy)).build) = fun policy =>
        (ofParts draft.header payload policy).map (markTruncated · draft.textTruncated) := by
      funext policy
      have edited : (draft.set (.policy policy)).edited = { pending := some payload } :=
        congr (congrArg EditResult.mk pending) unfailed
      exact Draft.build_of_edited edited
    rw [built]
    exact decidedByPolicy_map_markTruncated draft.header payload draft.textTruncated

/-- A draft with 300 characters of text is refused or cut. -/
theorem decidedByPolicy_cutDraft :
    let long := String.ofList (List.replicate 300 'R')
    let payload : Payload := .uniformRegister { number := 63, property := ".reuse" }
    let draft := (Draft.start .reject).run
      [.text long, .payload (.uniformRegister 63 ".reuse"), .sizeBytes 4]
    draft.failure = none ∧ draft.pending = some payload ∧ payload.validate = .ok () ∧
      maxChars < long.length ∧
      (draft.set (.policy .reject)).build = .fail (.textTooLong "text" 300 256) ∧
      ∃ warning : Notice,
        (draft.set (.policy .truncate)).build =
          ⟨.ok { text := ⟨String.ofList (List.replicate 256 'R'), true⟩, flags := {},
                 sizeBytes := 4, payload }, [warning]⟩ ∧
          warning.level = .warning ∧
          warning.message =
            "OPD1002: `text` is 300 characters long, limit is 256; truncating" := by
  intro long payload draft
  have length : long.length = 300 := by
    rw [String.length_ofList, List.length_replicate]
  have exceeds : maxChars < long.length := by
    rw [length]
    decide
  have beginning : String.ofList (long.toList.take maxChars) =
      String.ofList (List.replicate 256 'R') := by
    rw [String.toList_ofList, List.take_replicate]
    rfl
  have decided := decidedByPolicy.2 draft payload rfl rfl
  have refused := decided.refused rfl exceeds
  obtain ⟨warning, cut, level, message⟩ := decided.cut rfl exceeds
  change (draft.set (.policy .reject)).build = .fail (.textTooLong "text" long.length _)
    at refused
  change (draft.set (.policy .truncate)).build =
    ⟨.ok { text := ⟨String.ofList (long.toList.take maxChars), true⟩, flags := {},
           sizeBytes := 4, payload }, [warning]⟩ at cut
  change warning.message =
    (OperandError.textTooLong "text" long.length _).message ++ "; truncating" at message
  rw [length] at refused message
  rw [beginning] at cut
  exact ⟨rfl, rfl, rfl, exceeds, refused, warning, cut, level, message⟩

end Operand

end GpuOperand

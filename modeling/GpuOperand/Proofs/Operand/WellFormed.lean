import GpuOperand.Draft.Basic
import GpuOperand.Proofs.Text.Limit

/-!
# Well-formed operands

An operand is well formed when its payload violates no limit and its text is
within its own.  Making one from parts, directly or under a given kind, yields
well-formed operands only, and yields every one of them: its own parts make it
again if its text is whole, and a longer text makes it if its text was cut.
-/

namespace GpuOperand

namespace Operand

/-- What holds of every operand, however it came about. -/
structure WellFormed (operand : Operand) : Prop where
  valid : operand.payload.validate = .ok ()
  text : operand.text.WithinLimit

theorem ofParts_of_violation {payload : Payload} {violation : OperandError}
    (violated : payload.validate = .error violation) (header : Header)
    (policy : TextPolicy) :
    ofParts header payload policy = .fail violation := by
  simp [ofParts, violated]

theorem ofParts_of_valid {payload : Payload} (valid : payload.validate = .ok ())
    (header : Header) (policy : TextPolicy) :
    ofParts header payload policy =
      (BoundedText.ofString header.text policy).map fun text =>
        { text, flags := header.flags, sizeBytes := header.sizeBytes, payload } := by
  simp [ofParts, valid]

/-- An operand is made exactly from a valid payload and an admitted text. -/
theorem outcome_ofParts_eq_ok_iff {header : Header} {payload : Payload}
    {policy : TextPolicy} {operand : Operand} :
    (ofParts header payload policy).outcome = .ok operand ↔
      payload.validate = .ok () ∧ policy.Admits header.text ∧
        operand = { text := .ofSource header.text, flags := header.flags,
                    sizeBytes := header.sizeBytes, payload } := by
  cases validated : payload.validate with
  | error violation => simp [ofParts_of_violation validated, Logged.fail]
  | ok =>
      rw [ofParts_of_valid validated, Logged.map]
      by_cases admits : policy.Admits header.text
      · have taken := BoundedText.outcome_ofString_eq_ok_iff.mpr
          ⟨admits, (rfl : BoundedText.ofSource header.text = _)⟩
        simp [taken, admits, Except.map, eq_comm]
      · simp [BoundedText.outcome_ofString_of_not_admits admits, admits, Except.map]

theorem ofKind_of_kind_eq {kind : Kind} {payload : Payload} (same : payload.kind = kind)
    (header : Header) :
    ofKind kind header payload = ofParts header payload := by
  simp [ofKind, same]

theorem outcome_ofKind_eq_ok_iff {kind : Kind} {header : Header} {payload : Payload}
    {operand : Operand} :
    (ofKind kind header payload).outcome = .ok operand ↔
      payload.kind = kind ∧ (ofParts header payload).outcome = .ok operand := by
  by_cases same : payload.kind = kind
  · simp [ofKind_of_kind_eq same, same]
  · simp [ofKind, same, Logged.fail]

theorem wellFormed_of_ofParts {header : Header} {payload : Payload}
    {policy : TextPolicy} {operand : Operand}
    (made : (ofParts header payload policy).outcome = .ok operand) :
    operand.WellFormed := by
  obtain ⟨valid, _, rfl⟩ := outcome_ofParts_eq_ok_iff.mp made
  exact ⟨valid, BoundedText.withinLimit_ofSource header.text⟩

theorem WellFormed.exists_ofParts {operand : Operand} (wellFormed : operand.WellFormed) :
    ∃ header policy, (ofParts header operand.payload policy).outcome = .ok operand := by
  obtain ⟨⟨value, truncated⟩, flags, sizeBytes, payload⟩ := operand
  obtain ⟨valid, length_le, length_of_truncated⟩ := wellFormed
  cases truncated with
  | false =>
      refine ⟨{ text := value, flags, sizeBytes }, .reject, ?_⟩
      rw [outcome_ofParts_eq_ok_iff]
      exact ⟨valid, Or.inl length_le, by rw [BoundedText.ofSource_of_fits length_le]⟩
  | true =>
      -- Any longer text with this beginning would do.
      have full : value.length = maxChars := length_of_truncated rfl
      have long : maxChars < (value ++ "-").length := by
        rw [String.length_append, full]
        exact Nat.lt_succ_self maxChars
      have kept : BoundedText.beginning (value ++ "-") = value := by
        have whole : value.toList.length = maxChars := by
          rw [String.length_toList, full]
        rw [BoundedText.beginning, String.toList_append, ← whole, List.take_left,
          String.ofList_toList]
      refine ⟨{ text := value ++ "-", flags, sizeBytes }, .truncate, ?_⟩
      rw [outcome_ofParts_eq_ok_iff]
      exact ⟨valid, Or.inr rfl, by rw [BoundedText.ofSource_of_long long, kept]⟩

end Operand

end GpuOperand

import GpuOperand.Proofs.Operand.Summary
import GpuOperand.Proofs.Session

/-!
# Remaking operands

The header and the payload of an operand make it again, under every policy and without a
notice, except that the mark of a cut text is lost: a header has no place for it.  An
operand that was reopened keeps the mark beside its header, and loses nothing.
-/

namespace GpuOperand

namespace Operand

/-- The operand without the mark of a cut text. -/
def unmarked (operand : Operand) : Operand :=
  { operand with text := ⟨operand.text.value, false⟩ }

theorem unmarked_eq_self_iff {operand : Operand} :
    operand.unmarked = operand ↔ operand.text.truncated = false := by
  obtain ⟨⟨value, truncated⟩, flags, sizeBytes, payload⟩ := operand
  simp [unmarked, eq_comm]

theorem markTruncated_unmarked (operand : Operand) :
    operand.unmarked.markTruncated operand.text.truncated = operand := by
  rw [markTruncated, unmarked, Bool.false_or]

/-- The mark is the only part of the summary that can differ. -/
theorem summary_unmarked_eq_iff {operand : Operand} :
    operand.unmarked.summary = operand.summary ↔ operand.text.truncated = false := by
  constructor
  · intro same
    have characters := congrArg String.toList same
    rw [toList_summary, toList_summary] at characters
    have fromText := List.tail_eq_of_cons_eq (List.append_cancel_left characters)
    have fromPayload := List.tail_eq_of_cons_eq (List.append_cancel_left fromText)
    have fromMark := List.append_cancel_left fromPayload
    have marks : truncatedMark false = truncatedMark operand.text.truncated :=
      List.append_cancel_right fromMark
    cases truncated : operand.text.truncated with
    | false => rfl
    | true =>
        rw [truncated] at marks
        exact absurd marks (by decide)
  · intro uncut
    rw [unmarked_eq_self_iff.mpr uncut]

namespace WellFormed

variable {operand : Operand}

/-- The text of a well-formed operand is never too long, so no policy is asked. -/
theorem ofParts_header (wellFormed : operand.WellFormed) (policy : TextPolicy) :
    ofParts operand.header operand.payload policy = .ok operand.unmarked := by
  rw [ofParts_of_valid wellFormed.valid, header,
    BoundedText.ofString_of_fits wellFormed.text.length_le, Logged.map_ok]
  rfl

theorem ofKind_header (wellFormed : operand.WellFormed) :
    ofKind operand.kind operand.header operand.payload = .ok operand.unmarked := by
  have same : operand.payload.kind = operand.kind := rfl
  rw [ofKind_of_kind_eq same]
  exact wellFormed.ofParts_header .reject

theorem build_toDraft (wellFormed : operand.WellFormed) :
    operand.toDraft.build = .ok operand := by
  have edited : operand.toDraft.edited = { pending := some operand.payload } := rfl
  have made : ofParts operand.toDraft.header operand.payload operand.toDraft.policy =
      .ok operand.unmarked := wellFormed.ofParts_header .reject
  have marked : operand.unmarked.markTruncated operand.toDraft.textTruncated = operand :=
    operand.markTruncated_unmarked
  rw [Draft.build_of_edited edited, made, Logged.map_ok, marked]

end WellFormed

/-- An operand that is remade from its header and payload is the same operand without the
mark of a cut text, so it is the same operand, with the same summary, if and only if its
text was not cut.  A reopened operand is built as it was in any case. -/
theorem exists_remade {operand : Operand} (constructible : operand.Constructible) :
    (∃ remade : Operand,
      (∀ policy, ofParts operand.header operand.payload policy = .ok remade) ∧
        ofKind operand.kind operand.header operand.payload = .ok remade ∧
        remade.kind = operand.kind ∧ remade.text.value = operand.text.value ∧
        remade.text.truncated = false ∧ remade.flags = operand.flags ∧
        remade.sizeBytes = operand.sizeBytes ∧ remade.payload = operand.payload ∧
        (remade = operand ↔ operand.text.truncated = false) ∧
        (remade.summary = operand.summary ↔ operand.text.truncated = false)) ∧
      operand.toDraft.build = .ok operand := by
  have wellFormed := constructible.wellFormed
  constructor
  · exact ⟨operand.unmarked, wellFormed.ofParts_header, wellFormed.ofKind_header, rfl, rfl,
      rfl, rfl, rfl, rfl, unmarked_eq_self_iff, summary_unmarked_eq_iff⟩
  · exact wellFormed.build_toDraft

/-- A cut text beside a NaN. -/
theorem exists_remade_cutNaN :
    let operand : Operand :=
      { text := ⟨String.ofList (List.replicate 256 'R'), true⟩, flags := { negated := true }
        sizeBytes := 8, payload := .float ⟨0x7FF8000000000001⟩ }
    operand.Constructible ∧ operand.toDraft.build = .ok operand ∧
      ∃ remade : Operand,
        (∀ policy, ofParts operand.header operand.payload policy = .ok remade) ∧
          ofKind .float operand.header operand.payload = .ok remade ∧
          remade.payload = .float ⟨0x7FF8000000000001⟩ ∧ remade.text.truncated = false ∧
          remade ≠ operand ∧ remade.summary ≠ operand.summary := by
  intro operand
  have full : operand.text.value.length = maxChars := by
    rw [String.length_ofList, List.length_replicate]
    rfl
  have constructible : operand.Constructible :=
    WellFormed.constructible ⟨rfl, Nat.le_of_eq full, fun _ => full⟩
  obtain ⟨⟨remade, made, madeOfKind, _, _, unmarked, _, _, payload, same, described⟩, built⟩ :=
    exists_remade constructible
  have cut : ¬ operand.text.truncated = false := Bool.noConfusion
  exact ⟨constructible, built, remade, made, madeOfKind, payload, unmarked,
    mt same.mp cut, mt described.mp cut⟩

end Operand

end GpuOperand

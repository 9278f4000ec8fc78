import GpuOperand.OperandList.Basic
import GpuOperand.Proofs.Operand.SameValue

/-!
# Operand lists of the same value

Two operand lists have the same value if they target the same space, are equally long, and
have operands of the same value at every position.  So the laws of operands carry over, and
a list differs from itself exactly if a NaN is among its literals.
-/

namespace GpuOperand

namespace OperandList

theorem sameValue_iff_positions {left right : OperandList} :
    left.sameValue right = true ↔
      left.space = right.space ∧ left.operands.length = right.operands.length ∧
        ∀ (index : Nat) (leftOperand rightOperand : Operand),
          left.operands[index]? = some leftOperand →
            right.operands[index]? = some rightOperand →
              leftOperand.sameValue rightOperand = true := by
  simp only [sameValue, Bool.and_eq_true, beq_iff_eq, List.all_eq_true, and_assoc]
  apply and_congr_right
  intro _
  apply and_congr_right
  intro _
  constructor
  · intro pairs index leftOperand rightOperand atLeft atRight
    apply pairs (leftOperand, rightOperand)
    exact List.mem_of_getElem? (List.getElem?_zip_eq_some.mpr ⟨atLeft, atRight⟩)
  · rintro positions ⟨leftOperand, rightOperand⟩ member
    obtain ⟨index, paired⟩ := List.mem_iff_getElem?.mp member
    obtain ⟨atLeft, atRight⟩ := List.getElem?_zip_eq_some.mp paired
    exact positions index leftOperand rightOperand atLeft atRight

theorem sameValue_self_iff (list : OperandList) :
    list.sameValue list = true ↔
      ∀ operand ∈ list.operands, operand.sameValue operand = true := by
  have pairs : list.operands.zip list.operands =
      list.operands.map fun operand => (operand, operand) := by
    induction list.operands with
    | nil => rfl
    | cons operand rest ih => rw [List.zip_cons_cons, ih, List.map_cons]
  simp [sameValue, pairs]

theorem partialEquivalence_sameValue :
    PartialEquivalence sameValue fun list =>
      ∃ operand ∈ list.operands, operand.payload.HoldsNaN where
  symm left right same := by
    rw [sameValue_iff_positions] at same ⊢
    obtain ⟨spaces, lengths, positions⟩ := same
    refine ⟨spaces.symm, lengths.symm, ?_⟩
    intro index rightOperand leftOperand atRight atLeft
    exact Operand.partialEquivalence_sameValue.symm leftOperand rightOperand
      (positions index leftOperand rightOperand atLeft atRight)
  trans left middle right former latter := by
    rw [sameValue_iff_positions] at former latter ⊢
    obtain ⟨spaces, lengths, positions⟩ := former
    obtain ⟨laterSpaces, laterLengths, laterPositions⟩ := latter
    refine ⟨spaces.trans laterSpaces, lengths.trans laterLengths, ?_⟩
    intro index leftOperand rightOperand atLeft atRight
    -- The lists are equally long, so there is an operand between the two.
    have within : index < middle.operands.length := by
      rw [← lengths]
      exact (List.getElem?_eq_some_iff.mp atLeft).1
    have atMiddle := List.getElem?_eq_getElem within
    exact Operand.partialEquivalence_sameValue.trans leftOperand _ rightOperand
      (positions index leftOperand _ atLeft atMiddle)
      (laterPositions index _ rightOperand atMiddle atRight)
  self_iff list := by
    rw [← Bool.not_eq_true, sameValue_self_iff]
    simp [← Operand.partialEquivalence_sameValue.self_iff]

end OperandList

end GpuOperand

import GpuOperand.Operand.Basic

/-!
# Operands of the same value

Equality that compares literals as numbers is symmetric and transitive.  It fails to be
reflexive on NaNs and nowhere else, first among double precision values, then among
payloads, and so among operands.
-/

namespace GpuOperand

/-- A symmetric and transitive relation that is reflexive except on certain values. -/
structure PartialEquivalence {Value : Type} (same : Value → Value → Bool)
    (exceptional : Value → Prop) : Prop where
  symm : ∀ left right, same left right = true → same right left = true
  trans : ∀ left middle right,
    same left middle = true → same middle right = true → same left right = true
  self_iff : ∀ value, same value value = false ↔ exceptional value

namespace Double

theorem sameNumber_iff {left right : Double} :
    left.sameNumber right = true ↔
      left.isNaN = false ∧ right.isNaN = false ∧
        (left = right ∨ left.isZero = true ∧ right.isZero = true) := by
  simp [sameNumber, and_assoc]

theorem sameNumber_self (value : Double) :
    value.sameNumber value = !value.isNaN := by
  simp [sameNumber]

theorem partialEquivalence_sameNumber :
    PartialEquivalence sameNumber fun value => value.isNaN = true where
  symm left right same := by
    rw [sameNumber_iff] at same ⊢
    obtain ⟨leftNumber, rightNumber, rfl | ⟨leftZero, rightZero⟩⟩ := same
    · exact ⟨rightNumber, leftNumber, Or.inl rfl⟩
    · exact ⟨rightNumber, leftNumber, Or.inr ⟨rightZero, leftZero⟩⟩
  trans left middle right former latter := by
    rw [sameNumber_iff] at former latter ⊢
    obtain ⟨leftNumber, _, rfl | ⟨leftZero, middleZero⟩⟩ := former
    · exact latter
    · obtain ⟨_, rightNumber, rfl | ⟨_, rightZero⟩⟩ := latter
      · exact ⟨leftNumber, rightNumber, Or.inr ⟨leftZero, middleZero⟩⟩
      · exact ⟨leftNumber, rightNumber, Or.inr ⟨leftZero, rightZero⟩⟩
  self_iff value := by simp [sameNumber_self]

end Double

namespace Payload

def HoldsNaN (payload : Payload) : Prop :=
  ∃ value, payload = .float value ∧ value.isNaN = true

/-- Only literals can have the same value without being the same. -/
theorem sameValue_iff {left right : Payload} :
    left.sameValue right = true ↔
      (∃ leftValue rightValue, left = .float leftValue ∧ right = .float rightValue ∧
          leftValue.sameNumber rightValue = true) ∨
        left.kind ≠ .float ∧ left = right := by
  cases left with
  | float leftValue => cases right <;> simp [sameValue, kind]
  | _ => simp [sameValue, kind]

theorem sameValue_self_iff (payload : Payload) :
    payload.sameValue payload = true ↔
      ∀ value, payload = .float value → value.isNaN = false := by
  cases payload with
  | float value => simp [sameValue, Double.sameNumber_self]
  | _ => simp [sameValue]

theorem partialEquivalence_sameValue : PartialEquivalence sameValue HoldsNaN where
  symm left right same := by
    rcases sameValue_iff.mp same with ⟨leftValue, rightValue, rfl, rfl, numbers⟩ | ⟨_, rfl⟩
    · exact Double.partialEquivalence_sameNumber.symm leftValue rightValue numbers
    · exact same
  trans left middle right former latter := by
    rcases sameValue_iff.mp former with ⟨leftValue, middleValue, rfl, rfl, numbers⟩ | ⟨_, rfl⟩
    · rcases sameValue_iff.mp latter with ⟨_, rightValue, ⟨⟩, rfl, others⟩ | ⟨_, rfl⟩
      · exact Double.partialEquivalence_sameNumber.trans leftValue middleValue rightValue
          numbers others
      · exact former
    · exact latter
  self_iff payload := by
    rw [← Bool.not_eq_true, sameValue_self_iff]
    simp [HoldsNaN]

end Payload

namespace Operand

theorem sameValue_iff {left right : Operand} :
    left.sameValue right = true ↔
      left.text = right.text ∧ left.flags = right.flags ∧
        left.sizeBytes = right.sizeBytes ∧ left.payload.sameValue right.payload = true := by
  simp [sameValue, and_assoc]

theorem sameValue_self_iff (operand : Operand) :
    operand.sameValue operand = true ↔
      ∀ value, operand.payload = .float value → value.isNaN = false := by
  simp [sameValue, Payload.sameValue_self_iff]

theorem partialEquivalence_sameValue :
    PartialEquivalence sameValue fun operand => operand.payload.HoldsNaN where
  symm left right same := by
    rw [sameValue_iff] at same ⊢
    obtain ⟨text, flags, sizeBytes, payloads⟩ := same
    exact ⟨text.symm, flags.symm, sizeBytes.symm,
      Payload.partialEquivalence_sameValue.symm _ _ payloads⟩
  trans left middle right former latter := by
    rw [sameValue_iff] at former latter ⊢
    obtain ⟨text, flags, sizeBytes, payloads⟩ := former
    obtain ⟨text', flags', sizeBytes', payloads'⟩ := latter
    exact ⟨text.trans text', flags.trans flags', sizeBytes.trans sizeBytes',
      Payload.partialEquivalence_sameValue.trans _ _ _ payloads payloads'⟩
  self_iff operand := by
    rw [← Payload.partialEquivalence_sameValue.self_iff]
    simp [sameValue]

end Operand

end GpuOperand

import GpuOperand.Proofs.Operand.Summary
import GpuOperand.Proofs.OperandList.SameValue

/-!
# Observing operands of the same value

Operands of the same value agree wherever they are looked at: in kind, text, flags and
width, in what they are inspected to be, and in the content that they give.  Their
summaries are the same as well, except for two zeros, of which one may show a sign.
-/

/-- Equality of outcomes whose values are compared by a relation of their own. -/
def Except.Agree {Error Value : Type} (same : Value → Value → Prop) :
    Except Error Value → Except Error Value → Prop
  | .ok left, .ok right => same left right
  | .error left, .error right => left = right
  | _, _ => False

namespace GpuOperand

/-- Equality of contents that compares floating-point literals as numbers. -/
def Kind.SameContent : (kind : Kind) → kind.Content → kind.Content → Prop
  | .float, left, right => Double.sameNumber left right = true
  | _, left, right => left = right

namespace Double

theorem text_of_isZero {value : Double} (zero : value.isZero = true) :
    value.text = if value.isNegative then "-0.0" else "0.0" := by
  have least : value.exponentField = 0 := by
    simp only [isZero, Bool.and_eq_true, beq_iff_eq] at zero
    exact zero.1
  have number : value.isNaN = false := by
    simp [isNaN, least, specialExponent, exponentCount]
  have finite : value.isInfinite = false := by
    simp [isInfinite, least, specialExponent, exponentCount]
  rw [text, magnitudeText, number, finite, zero]
  cases value.isNegative <;> rfl

/-- Equal numbers are written differently only if they are zeros of opposite sign. -/
theorem text_eq_iff_of_sameNumber {left right : Double}
    (same : left.sameNumber right = true) :
    left.text = right.text ↔
      ¬ (left.isZero = true ∧ right.isZero = true ∧ left.isNegative ≠ right.isNegative) := by
  obtain ⟨_, _, rfl | ⟨leftZero, rightZero⟩⟩ := sameNumber_iff.mp same
  · simp
  · rw [text_of_isZero leftZero, text_of_isZero rightZero]
    cases left.isNegative <;> cases right.isNegative <;> simp [leftZero, rightZero]

end Double

namespace Payload

/-- Both payloads are zeros, and one of them is negative. -/
def OppositeZeros (left right : Payload) : Prop :=
  ∃ leftValue rightValue, left = .float leftValue ∧ right = .float rightValue ∧
    leftValue.isZero = true ∧ rightValue.isZero = true ∧
      leftValue.isNegative ≠ rightValue.isNegative

theorem summary_eq_iff_of_sameValue {left right : Payload}
    (same : left.sameValue right = true) :
    left.summary = right.summary ↔ ¬ left.OppositeZeros right := by
  rcases sameValue_iff.mp same with ⟨leftValue, rightValue, rfl, rfl, numbers⟩ | ⟨other, rfl⟩
  · simpa [summary, OppositeZeros] using Double.text_eq_iff_of_sameNumber numbers
  · have notZeros : ¬ left.OppositeZeros left := by
      rintro ⟨value, _, rfl, _⟩
      exact other rfl
    simp [notZeros]

/-- Whatever sees only that a literal is one sees nothing else in payloads of the same
value. -/
theorem observe_eq_of_sameValue {Seen : Type} (observe : Payload → Seen)
    (blind : ∀ leftValue rightValue, observe (.float leftValue) = observe (.float rightValue))
    {left right : Payload} (same : left.sameValue right = true) :
    observe left = observe right := by
  rcases sameValue_iff.mp same with ⟨leftValue, rightValue, rfl, rfl, _⟩ | ⟨_, rfl⟩
  · exact blind leftValue rightValue
  · rfl

theorem kind_eq_of_sameValue {left right : Payload} (same : left.sameValue right = true) :
    left.kind = right.kind :=
  observe_eq_of_sameValue kind (fun _ _ => rfl) same

end Payload

namespace Operand

/-- Where two operands look the same. -/
structure LooksLike (left right : Operand) : Prop where
  kind : left.kind = right.kind
  text : left.text.value = right.text.value
  truncated : left.text.truncated = right.text.truncated
  flags : left.flags = right.flags
  sizeBytes : left.sizeBytes = right.sizeBytes
  inspect : ∀ expected,
    (left.inspect expected).Agree (fun left right => left.sameValue right = true)
      (right.inspect expected)
  content : ∀ expected,
    (left.content expected).Agree expected.SameContent (right.content expected)
  isOf : ∀ kind, left.isOf kind = right.isOf kind
  regFile? : left.regFile? = right.regFile?
  regNum? : left.regNum? = right.regNum?
  isZeroRegister : left.isZeroRegister = right.isZeroRegister
  isTruePredicate : left.isTruePredicate = right.isTruePredicate
  summary : left.summary = right.summary ↔ ¬ left.payload.OppositeZeros right.payload

variable {left right : Operand}

theorem summary_eq_iff (kinds : left.kind = right.kind) (texts : left.text = right.text)
    (flags : left.flags = right.flags) (widths : left.sizeBytes = right.sizeBytes) :
    left.summary = right.summary ↔ left.payload.summary = right.payload.summary := by
  rw [← String.toList_inj, ← String.toList_inj, toList_summary, toList_summary, kinds, texts,
    flags, widths]
  simp

theorem agree_inspect (same : left.payload.sameValue right.payload = true)
    (expected : Kind) :
    (left.inspect expected).Agree (fun left right => left.sameValue right = true)
      (right.inspect expected) := by
  have kinds : left.kind = right.kind := Payload.kind_eq_of_sameValue same
  by_cases asExpected : right.kind = expected
  · rw [inspect, inspect, kinds, if_pos asExpected, if_pos asExpected]
    exact same
  · rw [inspect, inspect, kinds, if_neg asExpected, if_neg asExpected]
    rfl

theorem agree_content (same : left.payload.sameValue right.payload = true)
    (expected : Kind) :
    (left.content expected).Agree expected.SameContent (right.content expected) := by
  obtain ⟨leftText, leftFlags, leftWidth, leftPayload⟩ := left
  obtain ⟨rightText, rightFlags, rightWidth, rightPayload⟩ := right
  rcases Payload.sameValue_iff.mp same with
    ⟨leftValue, rightValue, rfl, rfl, numbers⟩ | ⟨other, rfl⟩
  · -- Asked for any other content, both literals give the same error.
    cases expected with
    | float => exact numbers
    | _ => rfl
  · cases expected with
    | float =>
      cases leftPayload with
      | float value => exact absurd rfl other
      | _ => rfl
    | _ => cases leftPayload <;> rfl

theorem looksLike_of_sameValue (same : left.sameValue right = true) :
    left.LooksLike right := by
  obtain ⟨texts, flags, widths, payloads⟩ := sameValue_iff.mp same
  have kinds : left.kind = right.kind := Payload.kind_eq_of_sameValue payloads
  constructor
  · exact kinds
  · rw [texts]
  · rw [texts]
  · exact flags
  · exact widths
  · exact agree_inspect payloads
  · exact agree_content payloads
  · intro kind
    rw [isOf, isOf, Payload.isOf_eq_decide, Payload.isOf_eq_decide,
      Payload.kind_eq_of_sameValue payloads]
  · rw [regFile?, regFile?, kinds]
  · exact Payload.observe_eq_of_sameValue _ (fun _ _ => rfl) payloads
  · exact Payload.observe_eq_of_sameValue
      (fun payload => isZeroRegister { left with payload }) (fun _ _ => rfl) payloads
  · exact Payload.observe_eq_of_sameValue
      (fun payload => isTruePredicate { left with payload }) (fun _ _ => rfl) payloads
  · rw [summary_eq_iff kinds texts flags widths,
      Payload.summary_eq_iff_of_sameValue payloads]

end Operand

/-- Having the same value is a partial equivalence of operands, under which they look the
same, and position by position of operand lists. -/
theorem sameValue_laws :
    PartialEquivalence Operand.sameValue (fun operand => operand.payload.HoldsNaN) ∧
      (∀ left right : Operand, left.sameValue right = true → left.LooksLike right) ∧
      (∀ left right : OperandList, left.sameValue right = true ↔
        left.space = right.space ∧ left.operands.length = right.operands.length ∧
          ∀ (index : Nat) (leftOperand rightOperand : Operand),
            left.operands[index]? = some leftOperand →
              right.operands[index]? = some rightOperand →
                leftOperand.sameValue rightOperand = true) ∧
      PartialEquivalence OperandList.sameValue fun list =>
        ∃ operand ∈ list.operands, operand.payload.HoldsNaN := by
  refine ⟨Operand.partialEquivalence_sameValue, ?_, ?_,
    OperandList.partialEquivalence_sameValue⟩
  · intro left right same
    exact Operand.looksLike_of_sameValue same
  · intro left right
    exact OperandList.sameValue_iff_positions

/-- The two zeros have the same value, and the only sign of a difference is in the
summaries. -/
theorem sameValue_laws_zeros :
    let zero (bits : UInt64) : Operand :=
      { text := { value := "0.0" }, flags := {}, sizeBytes := 8, payload := .float ⟨bits⟩ }
    let positive := zero 0
    let negative := zero 0x8000000000000000
    positive.sameValue negative = true ∧ negative.sameValue positive = true ∧
      positive.LooksLike negative ∧ positive.summary ≠ negative.summary ∧
      OperandList.sameValue { operands := [positive, negative] }
        { operands := [negative, positive] } = true := by
  intro zero positive negative
  obtain ⟨operands, looks, lists, _⟩ := sameValue_laws
  have same : positive.sameValue negative = true := by decide
  have flipped := operands.symm positive negative same
  have alike := looks positive negative same
  have opposite : positive.payload.OppositeZeros negative.payload :=
    ⟨⟨0⟩, ⟨0x8000000000000000⟩, rfl, rfl, by decide⟩
  have differ := mt alike.summary.mp (not_not_intro opposite)
  refine ⟨same, flipped, alike, differ, (lists _ _).mpr ⟨rfl, rfl, ?_⟩⟩
  intro index leftOperand rightOperand atLeft atRight
  match index with
  | 0 =>
    cases atLeft
    cases atRight
    exact same
  | 1 =>
    cases atLeft
    cases atRight
    exact flipped

end GpuOperand

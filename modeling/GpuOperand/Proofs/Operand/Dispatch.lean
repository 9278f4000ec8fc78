import GpuOperand.Proofs.Payload.Content
import GpuOperand.Proofs.Payload.Numbers
import GpuOperand.Proofs.Session

/-!
# Dispatch on the kind

Whatever is asked of an operand by kind, it answers from the same payload.  Its own kind is
recognised and no other, that kind hands out the payload and its content, and any other
kind is an error that names both.  An operand can only be made under the kind of its
payload, and this is checked before anything else.  The kinds that index a register file
are those with a number, which is in the file if the payload is valid.
-/

namespace GpuOperand

namespace Payload

variable {payload : Payload}

theorem isSome_regNum? (payload : Payload) :
    payload.regNum?.isSome = payload.kind.regFile?.isSome := by
  cases payload <;> rfl

/-- The number of a register or predicate is the only one that its payload holds. -/
theorem numbers_of_regNum? {file : RegFile} {number : RegNum}
    (indexed : payload.kind.regFile? = some file) (found : payload.regNum? = some number) :
    payload.numbers = [⟨"num", file, number⟩] := by
  cases payload with
  | register | predicate | uniformRegister | uniformPredicate =>
      cases indexed
      cases found
      rfl
  | integer | float | constantBank | memoryReference | generic | memoryDescriptor =>
      contradiction

theorem regNum?_le_maxNum (valid : payload.validate = .ok ()) {file : RegFile}
    {number : RegNum} (indexed : payload.kind.regFile? = some file)
    (found : payload.regNum? = some number) : number ≤ file.maxNum := by
  have exist := numbersExist_of_valid valid ⟨"num", file, number⟩
  rw [numbers_of_regNum? indexed found] at exist
  exact exist List.mem_cons_self

end Payload

namespace Operand

variable {operand : Operand} {kind : Kind}

theorem isOf_iff : operand.isOf kind = true ↔ operand.kind = kind := by
  rw [isOf, Payload.isOf_eq_decide, decide_eq_true_eq]
  rfl

theorem inspect_of_kind_ne (other : operand.kind ≠ kind) :
    operand.inspect kind = .error (.kindMismatch kind operand.kind) :=
  if_neg other

theorem content_eq_ok_iff {content : kind.Content} :
    operand.content kind = .ok content ↔
      Payload.ofContent kind content = operand.payload := by
  rw [← Payload.content?_eq_some_iff, Operand.content]
  cases operand.payload.content? kind <;> simp

theorem content_of_kind_ne (other : operand.kind ≠ kind) :
    operand.content kind = .error (.kindMismatch kind operand.kind) := by
  rw [Operand.content, Payload.content?_eq_none_iff.mpr other]

theorem ofKind_of_kind_ne {payload : Payload} (other : payload.kind ≠ kind)
    (header : Header) :
    ofKind kind header payload = .fail (.kindMismatch kind payload.kind) :=
  if_neg other

/-- The check that is named after a kind. -/
def check (operand : Operand) : Kind → Bool
  | .integer => operand.isInteger
  | .float => operand.isFloat
  | .register => operand.isRegister
  | .predicate => operand.isPredicate
  | .uniformRegister => operand.isUniformRegister
  | .uniformPredicate => operand.isUniformPredicate
  | .constantBank => operand.isConstantBank
  | .memoryReference => operand.isMemoryReference
  | .generic => operand.isGeneric
  | .memoryDescriptor => operand.isMemoryDescriptor

/-- The answer of the accessor that is named after a kind. -/
def access (operand : Operand) : (kind : Kind) → Except OperandError kind.Content
  | .integer => operand.asInteger
  | .float => operand.asFloat
  | .register => operand.asRegister
  | .predicate => operand.asPredicate
  | .uniformRegister => operand.asUniformRegister
  | .uniformPredicate => operand.asUniformPredicate
  | .constantBank => operand.asConstantBank
  | .memoryReference => operand.asMemoryReference
  | .generic => operand.asGeneric
  | .memoryDescriptor => operand.asMemoryDescriptor

theorem check_eq_isOf (operand : Operand) (kind : Kind) :
    operand.check kind = operand.isOf kind := by
  cases kind <;> rfl

theorem access_eq_content (operand : Operand) (kind : Kind) :
    operand.access kind = operand.content kind := by
  cases kind <;> rfl

/-- How an operand answers to what is asked by kind, be it by the check and the accessor
named after the kind or with the kind as an argument.  The content of its own kind makes up
its payload, and its number is in the register file of that kind. -/
structure AnswersByKind (operand : Operand) : Prop where
  isOf : ∀ kind, operand.isOf kind = true ↔ kind = operand.kind
  check : ∀ kind, operand.check kind = operand.isOf kind
  inspect : operand.inspect operand.kind = .ok operand.payload
  inspect_other : ∀ kind, kind ≠ operand.kind →
    operand.inspect kind = .error (.kindMismatch kind operand.kind)
  content : ∃ content, operand.content operand.kind = .ok content ∧
    Payload.ofContent operand.kind content = operand.payload
  content_other : ∀ kind, kind ≠ operand.kind →
    operand.content kind = .error (.kindMismatch kind operand.kind)
  access : ∀ kind, operand.access kind = operand.content kind
  numbered : operand.regNum?.isSome = operand.regFile?.isSome
  inFile : operand.Constructible → ∀ file number,
    operand.regFile? = some file → operand.regNum? = some number → number ≤ file.maxNum

/-- Every operand answers by its kind, and is made under that kind only: any other kind is
an error, whatever else is wrong with the header or the payload. -/
theorem answersByKind :
    (∀ operand : Operand, operand.AnswersByKind) ∧
      ∀ kind header payload,
        (kind ≠ payload.kind →
          ofKind kind header payload = .fail (.kindMismatch kind payload.kind)) ∧
        (kind = payload.kind → ofKind kind header payload = ofParts header payload) := by
  constructor
  · intro operand
    constructor
    · intro kind
      rw [isOf_iff, eq_comm]
    · exact operand.check_eq_isOf
    · exact if_pos rfl
    · exact fun kind other => inspect_of_kind_ne other.symm
    · obtain ⟨content, whole⟩ :=
        Payload.exists_ofContent (rfl : operand.payload.kind = operand.kind)
      exact ⟨content, content_eq_ok_iff.mpr whole, whole⟩
    · exact fun kind other => content_of_kind_ne other.symm
    · exact operand.access_eq_content
    · exact operand.payload.isSome_regNum?
    · intro constructible file number indexed found
      exact Payload.regNum?_le_maxNum constructible.wellFormed.valid indexed found
  · intro kind header payload
    exact ⟨fun other => ofKind_of_kind_ne other.symm header,
      fun same => ofKind_of_kind_eq same.symm header⟩

/-- The last uniform register, and one that does not exist with a text that is too long. -/
theorem answersByKind_uniformRegister :
    let operand : Operand :=
      { text := ⟨"URZ.X4", false⟩, flags := {}, sizeBytes := 4
        payload := .uniformRegister ⟨63, ".X4"⟩ }
    let long := String.ofList (List.replicate 300 'R')
    let payload : Payload := .uniformRegister ⟨200, ""⟩
    operand.Constructible ∧
      operand.isOf .uniformRegister = true ∧ operand.isOf .register = false ∧
      operand.content .uniformRegister = .ok ⟨63, ".X4"⟩ ∧
      operand.content .register = .error (.kindMismatch .register .uniformRegister) ∧
      operand.inspect .register = .error (.kindMismatch .register .uniformRegister) ∧
      operand.regNum? = some 63 ∧ (63 : RegNum) ≤ RegFile.uniform.maxNum ∧
      payload.validate = .error (.outOfRange .uniformRegister "num" 200 63) ∧
      maxChars < long.length ∧
      ofKind .register { text := long } payload =
        .fail (.kindMismatch .register .uniformRegister) := by
  intro operand long payload
  have constructible : operand.Constructible :=
    WellFormed.constructible ⟨rfl, by decide, by simp [operand]⟩
  obtain ⟨answers, made⟩ := answersByKind
  obtain ⟨content, found, whole⟩ := (answers operand).content
  obtain rfl : content = ⟨63, ".X4"⟩ := Payload.uniformRegister.inj whole
  have unrecognised : operand.isOf .register = false := by
    rw [Bool.eq_false_iff, ne_eq, (answers operand).isOf]
    decide
  have exceeds : maxChars < long.length := by
    rw [String.length_ofList, List.length_replicate]
    decide
  exact ⟨constructible, ((answers operand).isOf _).mpr rfl, unrecognised, found,
    (answers operand).content_other .register (by decide),
    (answers operand).inspect_other .register (by decide), rfl,
    (answers operand).inFile constructible .uniform 63 rfl rfl, rfl, exceeds,
    (made .register { text := long } payload).1 (by decide)⟩

/-- An empty text is a content like any other. -/
example :
    let operand : Operand :=
      { text := {}, flags := {}, sizeBytes := 0, payload := .generic "" }
    operand.content .generic = .ok "" := by
  rfl

end Operand

end GpuOperand

import GpuOperand.Proofs.Draft.Run
import GpuOperand.Proofs.Payload.Numbers

/-!
# Spelling out an operand

An operand is made from a header and a payload at once, or spelled out: a draft
is given each field of the header and the edits of the payload, one by one.
Numbers are checked on both ways, when an edit sets them and when a whole
payload is validated.  Both checks find the same violations in the same order,
so both ways give the same operand or the same error, with the same notices.
-/

namespace GpuOperand

section Edits

open PayloadEdit

/-- The edits that start a constant bank reference and set its offsets. -/
def ConstantBank.edits (bank : ConstantBank) : List PayloadEdit :=
  .constantBank bank.bank ::
    ((bank.immOffset.map bankImmOffset).toList ++
      (bank.regOffset.map fun number => bankRegOffset number.toUInt32).toList)

def MemoryReference.edits (reference : MemoryReference) : List PayloadEdit :=
  .memoryReference ::
    ((reference.base.map fun base =>
        referenceBase base.number.toUInt32 base.modifier).toList ++
      (reference.uniformOffset.map fun offset =>
        referenceUniformOffset offset.number.toUInt32 offset.modifier).toList ++
      (reference.immOffset.map referenceImmOffset).toList ++
      (reference.descriptor.map fun register =>
        referenceDescriptor register.toUInt32).toList)

/-- The edits that make a payload: a single one, unless it is a reference. -/
def Payload.edits : Payload → List PayloadEdit
  | .integer value => [.integer value]
  | .float value => [.float value]
  | .register use => [.register use.number.toUInt32 use.property]
  | .predicate use => [.predicate use.number.toUInt32]
  | .uniformRegister use => [.uniformRegister use.number.toUInt32 use.property]
  | .uniformPredicate use => [.uniformPredicate use.number.toUInt32]
  | .constantBank bank => bank.edits
  | .memoryReference reference => reference.edits
  | .generic text => [.generic text]
  | .memoryDescriptor descriptor => [.memoryDescriptor descriptor.register.toUInt32]

end Edits

/-- Setters that write each field once, as a header and a policy have it, and make
the edits of a payload in their order.  How the fields are ordered, among
themselves and between the edits, is left open. -/
structure Draft.Spells (setters : List Setter) (header : Header) (payload : Payload)
    (policy : TextPolicy) : Prop where
  fields : ∀ field, setters.filterMap (Setter.value? field) =
    [({ header, policy } : Draft).read field]
  edits : setters.filterMap Setter.edit? = payload.edits

namespace EditResult

/-- Edits have come as far as a payload: they failed for the first of its
violations, and if it has none, the payload is pending. -/
structure Matches (result : EditResult) (payload : Payload)
    (violations : List OperandError) : Prop where
  failure : result.failure = violations.head?
  pending : violations = [] → result.pending = some payload

theorem matches_pending (payload : Payload) :
    Matches { pending := some payload } payload [] :=
  ⟨rfl, fun _ => rfl⟩

/-- What an edit adds to the violations is decided on a pending payload that has
none yet. -/
theorem Matches.edit {result : EditResult} {payload next : Payload}
    {violations further : List OperandError} {change : PayloadEdit}
    (matched : result.Matches payload violations)
    (applied : (change.apply (some payload)).Matches next further) :
    (result.edit change).Matches next (violations ++ further) := by
  constructor
  · cases violations with
    | nil =>
        have pending := matched.pending rfl
        simp [EditResult.edit, matched.failure, pending, applied.failure]
    | cons violation rest => simp [EditResult.edit, matched.failure]
  · intro none
    obtain ⟨rfl, rfl⟩ := List.append_eq_nil_iff.mp none
    rw [EditResult.edit, matched.pending rfl]
    exact applied.pending rfl

theorem Matches.optional {Part : Type} {result : EditResult}
    {violations : List OperandError} (kind : Kind) (payload : Option Part → Payload)
    (change : Part → PayloadEdit) (field : Part → NumberField)
    (matched : result.Matches (payload none) violations)
    (applied : ∀ part,
      ((change part).apply (some (payload none))).Matches (payload (some part))
        ((field part).violations kind))
    (part : Option Part) :
    (result.editAll (part.map change).toList).Matches (payload part)
      (violations ++ (part.map field).toList.flatMap (NumberField.violations kind)) := by
  cases part with
  | none => simpa using matched
  | some part => simpa using matched.edit (applied part)

theorem Matches.optionalUnchecked {Part : Type} {result : EditResult}
    {violations : List OperandError} (payload : Option Part → Payload)
    (change : Part → PayloadEdit) (matched : result.Matches (payload none) violations)
    (applied : ∀ part,
      ((change part).apply (some (payload none))).Matches (payload (some part)) [])
    (part : Option Part) :
    (result.editAll (part.map change).toList).Matches (payload part) violations := by
  cases part with
  | none => simpa using matched
  | some part => simpa using matched.edit (applied part)

/-- A result that depends on one number comes as far as validation lets it. -/
theorem matches_of_check {result : EditResult} {payload : Payload} {kind : Kind}
    {field : NumberField}
    (accepted : field.number ≤ field.file.maxNum → result = { pending := some payload })
    (refused : ¬ field.number ≤ field.file.maxNum →
      result.failure =
        some (field.file.outOfRange kind field.name field.number.toUInt32)) :
    result.Matches payload (field.violations kind) := by
  by_cases legal : field.number ≤ field.file.maxNum
  · simpa [NumberField.violations, legal, accepted legal] using matches_pending payload
  · constructor <;> simp [NumberField.violations, legal, refused legal]

theorem edit_of_unfailed {result : EditResult} (unfailed : result.failure = none)
    (change : PayloadEdit) :
    result.edit change = change.apply result.pending := by
  simp [edit, unfailed]

end EditResult

namespace PayloadEdit

open EditResult

theorem matches_startWith (pending : Option Payload) (kind : Kind) (name : String)
    (file : RegFile) (number : RegNum) (start : RegNum → Payload) :
    (startWith pending (file.narrow kind name number.toUInt32) start).Matches
      (start number) (NumberField.violations kind ⟨name, file, number⟩) := by
  rw [RegFile.narrow_toUInt32]
  exact matches_of_check (fun legal => by simp [startWith, legal])
    (fun illegal => by simp [startWith, illegal])

theorem matches_onReference (reference : MemoryReference) (name : String) (file : RegFile)
    (number : RegNum) (update : MemoryReference → RegNum → MemoryReference) :
    (onReference (some (.memoryReference reference)) fun reference =>
        (file.narrow .memoryReference name number.toUInt32).map (update reference)).Matches
      (.memoryReference (update reference number))
      (NumberField.violations .memoryReference ⟨name, file, number⟩) := by
  rw [RegFile.narrow_toUInt32]
  exact matches_of_check
    (fun legal => by simp [onReference, pendingReference, legal, Except.map])
    (fun illegal => by simp [onReference, illegal, Except.map])

end PayloadEdit

namespace EditResult

variable {start : EditResult} (unfailed : start.failure = none)
include unfailed

theorem matches_bank_edits (bank : ConstantBank) :
    (start.editAll bank.edits).Matches (.constantBank bank)
      (Payload.constantBank bank).numberViolations := by
  have started : (start.edit (.constantBank bank.bank)).Matches
      (.constantBank { bank := bank.bank }) [] := by
    rw [edit_of_unfailed unfailed]
    exact matches_pending _
  have immediate := started.optionalUnchecked
    (fun immOffset => .constantBank { bank := bank.bank, immOffset })
    .bankImmOffset (fun _ => matches_pending _) bank.immOffset
  have register := immediate.optional .constantBank
    (fun regOffset =>
      .constantBank { bank := bank.bank, immOffset := bank.immOffset, regOffset })
    (fun number => .bankRegOffset number.toUInt32)
    (⟨"reg_offset", .general, ·⟩)
    (fun number => by
      rw [PayloadEdit.apply, RegFile.narrow_toUInt32]
      exact matches_of_check
        (fun legal => by simp [PayloadEdit.onBank, legal, Except.map])
        (fun illegal => by simp [PayloadEdit.onBank, illegal, Except.map]))
    bank.regOffset
  rw [ConstantBank.edits, editAll_cons, editAll_append]
  exact register

theorem matches_reference_edits (reference : MemoryReference) :
    (start.editAll reference.edits).Matches (.memoryReference reference)
      (Payload.memoryReference reference).numberViolations := by
  have started : (start.edit .memoryReference).Matches (.memoryReference {}) [] := by
    rw [edit_of_unfailed unfailed]
    exact matches_pending _
  have base := started.optional .memoryReference
    (fun base => .memoryReference { base })
    (fun base => .referenceBase base.number.toUInt32 base.modifier)
    (⟨"ra_num", .general, ·.number⟩)
    (fun base => PayloadEdit.matches_onReference _ _ _ _
      fun reference number => { reference with base := some { base with number } })
    reference.base
  have offset := base.optional .memoryReference
    (fun uniformOffset => .memoryReference { base := reference.base, uniformOffset })
    (fun offset => .referenceUniformOffset offset.number.toUInt32 offset.modifier)
    (⟨"ur_num", .uniform, ·.number⟩)
    (fun offset => PayloadEdit.matches_onReference _ _ _ _
      fun reference number =>
        { reference with uniformOffset := some { offset with number } })
    reference.uniformOffset
  have immediate := offset.optionalUnchecked
    (fun immOffset => .memoryReference
      { base := reference.base, uniformOffset := reference.uniformOffset, immOffset })
    .referenceImmOffset (fun _ => matches_pending _) reference.immOffset
  have descriptor := immediate.optional .memoryReference
    (fun descriptor => .memoryReference { reference with descriptor })
    (fun register => .referenceDescriptor register.toUInt32)
    (⟨"desc_ureg_num", .uniform, ·⟩)
    (fun _ => PayloadEdit.matches_onReference _ _ _ _
      fun reference number => { reference with descriptor := some number })
    reference.descriptor
  rw [MemoryReference.edits, editAll_cons, editAll_append, editAll_append, editAll_append,
    Payload.numberViolations, Payload.numbers, List.flatMap_append, List.flatMap_append]
  exact descriptor

/-- Spelling out a payload finds the first violation of its numbers.  The length of
a text is left to validation, which checks it after the numbers. -/
theorem matches_edits (payload : Payload) :
    (start.editAll payload.edits).Matches payload payload.numberViolations := by
  have single {change : PayloadEdit} {violations : List OperandError}
      (applied : (change.apply start.pending).Matches payload violations) :
      (start.editAll [change]).Matches payload violations := by
    rw [editAll_cons, editAll_nil, edit_of_unfailed unfailed]
    exact applied
  have numbered {change : PayloadEdit} {field : NumberField} (only : payload.numbers = [field])
      (applied : (change.apply start.pending).Matches payload
        (field.violations payload.kind)) :
      (start.editAll [change]).Matches payload payload.numberViolations := by
    rw [Payload.numberViolations, only, List.flatMap_singleton]
    exact single applied
  cases payload with
  | integer | float | generic => exact single (matches_pending _)
  | register use =>
      exact numbered rfl (PayloadEdit.matches_startWith _ _ _ _ _ fun number =>
        .register { use with number })
  | uniformRegister use =>
      exact numbered rfl (PayloadEdit.matches_startWith _ _ _ _ _ fun number =>
        .uniformRegister { use with number })
  | predicate use =>
      exact numbered rfl (PayloadEdit.matches_startWith _ _ _ _ _ fun number =>
        .predicate { number })
  | uniformPredicate use =>
      exact numbered rfl (PayloadEdit.matches_startWith _ _ _ _ _ fun number =>
        .uniformPredicate { number })
  | memoryDescriptor descriptor =>
      exact numbered rfl (PayloadEdit.matches_startWith _ _ _ _ _ fun register =>
        .memoryDescriptor { register })
  | constantBank bank => exact matches_bank_edits unfailed bank
  | memoryReference reference => exact matches_reference_edits unfailed reference

end EditResult

namespace Operand

@[simp]
theorem markTruncated_false (operand : Operand) : operand.markTruncated false = operand := by
  simp [markTruncated]

theorem map_markTruncated_false (made : Logged OperandError Operand) :
    made.map (markTruncated · false) = made := by
  obtain ⟨outcome, notices⟩ := made
  cases outcome <;> simp [Logged.map, Except.map]

end Operand

namespace Draft

variable {setters : List Setter} {header : Header} {payload : Payload}
  {policy : TextPolicy}

/-- The setters that write the fields first and make the edits after them. -/
def fieldsFirst (header : Header) (payload : Payload) (policy : TextPolicy) : List Setter :=
  [.policy policy, .text header.text, .negated header.flags.negated,
      .inverted header.flags.inverted, .absolute header.flags.absolute,
      .sizeBytes header.sizeBytes] ++ payload.edits.map .payload

/-- Every operand can be spelled out. -/
theorem spells_fieldsFirst (header : Header) (payload : Payload) (policy : TextPolicy) :
    Spells (fieldsFirst header payload policy) header payload policy where
  fields field := by
    have none : (payload.edits.map .payload).filterMap (Setter.value? field) = [] := by
      rw [List.filterMap_map, List.filterMap_eq_nil_iff]
      intro change _
      cases field <;> rfl
    rw [fieldsFirst, List.filterMap_append, none]
    cases field <;> rfl
  edits := by
    have whole : (payload.edits.map .payload).filterMap Setter.edit? = payload.edits := by
      rw [List.filterMap_map]
      exact List.filterMap_some
    rw [fieldsFirst, List.filterMap_append, whole]
    rfl

theorem Spells.header_run (spells : Spells setters header payload policy)
    (draft : Draft) :
    (draft.run setters).header = header ∧ (draft.run setters).policy = policy ∧
      (draft.run setters).textTruncated = false := by
  have fields : ∀ field, (draft.run setters).read field =
      ({ header, policy } : Draft).read field := by
    intro field
    rw [read_run, spells.fields field]
    rfl
  obtain ⟨sameHeader, samePolicy⟩ := header_eq_of_read_eq fields
  refine ⟨sameHeader, samePolicy, ?_⟩
  rw [textTruncated_run, spells.fields .text]
  simp

/-- An operand that is spelled out is the one made at once, or fails with the same
error, and the same notices are given. -/
theorem build_run_of_spells {draft : Draft} (unfailed : draft.failure = none)
    (spells : Spells setters header payload policy) :
    (draft.run setters).build = Operand.ofParts header payload policy := by
  obtain ⟨sameHeader, samePolicy, uncut⟩ := spells.header_run draft
  have editedUnfailed : draft.edited.failure = none := unfailed
  have spelled := EditResult.matches_edits editedUnfailed payload
  have edited : (draft.run setters).edited = draft.edited.editAll payload.edits := by
    rw [edited_run, spells.edits]
  rw [← edited] at spelled
  cases numbers : payload.numberViolations with
  | nil =>
      rw [numbers] at spelled
      have made : (draft.run setters).edited = { pending := some payload } :=
        congr (congrArg EditResult.mk (spelled.pending rfl)) spelled.failure
      rw [build_of_edited made, sameHeader, samePolicy, uncut,
        Operand.map_markTruncated_false]
  | cons violation rest =>
      have violated : payload.validate = .error violation := by
        rw [Payload.validate_eq_error_iff, Payload.violations, numbers]
        rfl
      rw [numbers] at spelled
      rw [build_of_failure spelled.failure, Operand.ofParts_of_violation violated]

/-- Two registers out of range, with fields written between the edits, or all before them. -/
theorem build_run_of_spells_twoViolations :
    let header : Header :=
      { text := "[UR64]", flags := { negated := true }, sizeBytes := 8 }
    let payload : Payload :=
      .memoryReference { uniformOffset := some { number := 64 }, descriptor := some 99 }
    let setters : List Setter :=
      [.payload .memoryReference, .sizeBytes 8, .text "[UR64]",
        .payload (.referenceUniformOffset 64 .plain), .policy .truncate, .negated true,
        .inverted false, .payload (.referenceDescriptor 99), .absolute false]
    (start .reject).failure = none ∧ Spells setters header payload .truncate ∧
      ((start .reject).run setters).build = Operand.ofParts header payload .truncate ∧
      ((start .reject).run (fieldsFirst header payload .truncate)).build =
        Operand.ofParts header payload .truncate := by
  intro header payload setters
  have spells : Spells setters header payload .truncate :=
    ⟨fun field => by cases field <;> rfl, rfl⟩
  exact ⟨rfl, spells, build_run_of_spells rfl spells,
    build_run_of_spells rfl (spells_fieldsFirst header payload .truncate)⟩

end Draft

end GpuOperand

import GpuOperand.Proofs.Draft.Failure

/-!
# Last writes to a payload

A setter starts a payload, or sets one part of a reference.  A part of a memory
reference also starts one, an empty one, wherever something else is pending.  When no
setter of a run fails, the payload that the run leaves pending is what was started last,
with each part as the last setter from there on that sets it.  Nothing older is left of
it, and no number was changed by storing it in a byte.
-/

namespace GpuOperand

/-- The parts of a reference that are set one at a time. -/
inductive Part where
  | bankImmOffset
  | bankRegOffset
  | base
  | uniformOffset
  | immOffset
  | descriptor

abbrev Part.Value : Part → Type
  | bankImmOffset | immOffset => Int32
  | bankRegOffset | descriptor => RegNum
  | base | uniformOffset => AddressRegister

namespace PayloadEdit

/-- What an edit sets a part to, if it sets that part.  A number is taken as the byte
that it would be stored in. -/
def part? (part : Part) (edit : PayloadEdit) : Option part.Value :=
  match part, edit with
  | .bankImmOffset, bankImmOffset offset => some offset
  | .bankRegOffset, bankRegOffset number => some number.toUInt8
  | .base, referenceBase number modifier => some { number := number.toUInt8, modifier }
  | .uniformOffset, referenceUniformOffset number modifier =>
      some { number := number.toUInt8, modifier }
  | .immOffset, referenceImmOffset offset => some offset
  | .descriptor, referenceDescriptor number => some number.toUInt8
  | _, _ => none

/-- The empty reference that a part of a reference starts where none is pending. -/
def emptyReference? (pending : Option Payload) : Option Payload :=
  if pending.map Payload.kind = some .memoryReference then none
  else some (.memoryReference {})

/-- What an edit of a pending payload starts, if it starts anything. -/
def start? (edit : PayloadEdit) (pending : Option Payload) : Option Payload :=
  match edit with
  | integer value => some (.integer value)
  | float value => some (.float value)
  | register number property => some (.register { number := number.toUInt8, property })
  | uniformRegister number property =>
      some (.uniformRegister { number := number.toUInt8, property })
  | predicate number => some (.predicate { number := number.toUInt8 })
  | uniformPredicate number => some (.uniformPredicate { number := number.toUInt8 })
  | generic text => some (.generic text)
  | memoryDescriptor number => some (.memoryDescriptor { register := number.toUInt8 })
  | constantBank bank => some (.constantBank { bank })
  | memoryReference => some (.memoryReference {})
  | bankImmOffset _ | bankRegOffset _ => none
  | referenceBase .. | referenceUniformOffset .. | referenceImmOffset _
  | referenceDescriptor _ => emptyReference? pending

/-- What the last of some edits that set a part sets it to. -/
def latest? (edits : List PayloadEdit) (part : Part) : Option part.Value :=
  (edits.filterMap (part? part)).getLast?

theorem latest?_append (first second : List PayloadEdit) (part : Part) :
    latest? (first ++ second) part = (latest? second part).or (latest? first part) := by
  rw [latest?, List.filterMap_append, List.getLast?_append]
  rfl

end PayloadEdit

namespace Payload

open PayloadEdit

/-- A payload with the parts that edits set last.  Parts that none of them sets are
kept. -/
def amend (payload : Payload) (edits : List PayloadEdit) : Payload :=
  match payload with
  | .constantBank bank =>
      .constantBank
        { bank := bank.bank
          immOffset := (latest? edits .bankImmOffset).or bank.immOffset
          regOffset := (latest? edits .bankRegOffset).or bank.regOffset }
  | .memoryReference reference =>
      .memoryReference
        { base := (latest? edits .base).or reference.base
          uniformOffset := (latest? edits .uniformOffset).or reference.uniformOffset
          immOffset := (latest? edits .immOffset).or reference.immOffset
          descriptor := (latest? edits .descriptor).or reference.descriptor }
  | payload => payload

@[simp]
theorem amend_nil (payload : Payload) : payload.amend [] = payload := by
  cases payload <;> rfl

theorem amend_append (payload : Payload) (first second : List PayloadEdit) :
    payload.amend (first ++ second) = (payload.amend first).amend second := by
  cases payload with
  | constantBank bank => simp only [amend, latest?_append, Option.or_assoc]
  | memoryReference reference => simp only [amend, latest?_append, Option.or_assoc]
  | _ => rfl

end Payload

namespace GivenNumber

theorem fault?_eq_none_iff {given : GivenNumber} :
    given.fault? = none ↔ given.number ≤ given.max := by
  rw [← UInt32.not_lt]
  simp [fault?]

end GivenNumber

theorem RegFile.narrow_eq_ok {file : RegFile} {number : UInt32}
    (legal : number ≤ file.maxNum.toUInt32) (kind : Kind) (field : String) :
    file.narrow kind field number = .ok number.toUInt8 :=
  (file.narrow_eq kind field number).trans (if_pos legal)

namespace PayloadEdit

theorem max_le_of_given? {edit : PayloadEdit} {given : GivenNumber}
    (passes : edit.given? = some given) : given.max ≤ 255 := by
  cases edit with
  | register | bankRegOffset | referenceBase =>
      obtain rfl := Option.some.inj passes
      exact UInt32.le_refl 255
  | uniformRegister | memoryDescriptor | referenceUniformOffset | referenceDescriptor =>
      obtain rfl := Option.some.inj passes
      exact (by decide : (63 : UInt32) ≤ 255)
  | predicate | uniformPredicate =>
      obtain rfl := Option.some.inj passes
      exact (by decide : (8 : UInt32) ≤ 255)
  | _ => cases passes

/-- A number without a fault fits into the byte that it is stored in. -/
theorem toNat_toUInt8_of_given? {edit : PayloadEdit} {given : GivenNumber}
    (passes : edit.given? = some given) (legal : given.fault? = none) :
    given.number.toUInt8.toNat = given.number.toNat := by
  have bound : given.number ≤ 255 :=
    UInt32.le_trans (GivenNumber.fault?_eq_none_iff.mp legal) (max_le_of_given? passes)
  have byte : given.number.toNat ≤ 255 := UInt32.le_iff_toNat_le.mp bound
  rw [UInt32.toNat_toUInt8]
  exact Nat.mod_eq_of_lt (Nat.lt_succ_of_le byte)

theorem pending_startWith {file : RegFile} {number : UInt32}
    (legal : number ≤ file.maxNum.toUInt32) (pending : Option Payload) (kind : Kind)
    (field : String) (start : RegNum → Payload) :
    (startWith pending (file.narrow kind field number) start).pending =
      some (start number.toUInt8) := by
  rw [RegFile.narrow_eq_ok legal]
  rfl

theorem emptyReference?_or (pending : Option Payload) :
    (emptyReference? pending).or pending =
      some (.memoryReference (pendingReference pending)) := by
  cases pending with
  | none => rfl
  | some payload => cases payload <;> rfl

theorem fault?_eq_none_iff {edit : PayloadEdit} {pending : Option Payload} :
    edit.fault? pending = none ↔
      (edit.needsBank = true → pending.map Payload.kind = some .constantBank) ∧
        edit.given?.bind GivenNumber.fault? = none := by
  unfold fault?
  split
  · rename_i missing
    simp [missing.1, missing.2]
  · rename_i present
    have bank : edit.needsBank = true → pending.map Payload.kind = some .constantBank :=
      fun needs => Decidable.not_not.mp fun other => present ⟨needs, other⟩
    exact ⟨fun inFile => ⟨bank, inFile⟩, And.right⟩

theorem exists_bank_of_needsBank {edit : PayloadEdit} {pending : Option Payload}
    (needs : edit.needsBank = true) (unfaulted : edit.fault? pending = none) :
    ∃ bank, pending = some (.constantBank bank) := by
  have kind := (fault?_eq_none_iff.mp unfaulted).1 needs
  obtain ⟨payload, rfl, isBank⟩ := Option.map_eq_some_iff.mp kind
  cases payload with
  | constantBank bank => exact ⟨bank, rfl⟩
  | _ => cases isBank

/-- What is pending before an edit sets its part is what the edit starts, if it starts
anything, and what was pending before it otherwise. -/
theorem pending_apply {edit : PayloadEdit} {pending : Option Payload}
    (unfaulted : edit.fault? pending = none) :
    (edit.apply pending).pending =
      ((edit.start? pending).or pending).map (·.amend [edit]) := by
  have inFile := (fault?_eq_none_iff.mp unfaulted).2
  -- Only references have parts, so every other payload is left as it was started.
  cases edit with
  | integer | float | generic | constantBank | memoryReference => rfl
  | register | uniformRegister | predicate | uniformPredicate | memoryDescriptor =>
      exact pending_startWith (GivenNumber.fault?_eq_none_iff.mp inFile) _ _ _ _
  | bankImmOffset offset =>
      obtain ⟨bank, rfl⟩ := exists_bank_of_needsBank rfl unfaulted
      rfl
  | bankRegOffset number =>
      obtain ⟨bank, rfl⟩ := exists_bank_of_needsBank rfl unfaulted
      rw [apply, onBank, RegFile.narrow_eq_ok (GivenNumber.fault?_eq_none_iff.mp inFile)]
      rfl
  | referenceImmOffset offset =>
      rw [start?, emptyReference?_or]
      rfl
  | referenceBase | referenceUniformOffset | referenceDescriptor =>
      rw [start?, emptyReference?_or, apply, onReference,
        RegFile.narrow_eq_ok (GivenNumber.fault?_eq_none_iff.mp inFile)]
      rfl

end PayloadEdit

/-- What a setter of a draft starts as its payload, if it starts anything. -/
def Setter.start? (setter : Setter) (draft : Draft) : Option Payload :=
  setter.edit?.bind (·.start? draft.pending)

namespace Draft

/-- What the last setter of a run that starts a payload starts, and the setters from it
on.  Each is judged on the draft that the setters before it leave behind. -/
def lastStart? (draft : Draft) : List Setter → Option (Payload × List Setter)
  | [] => none
  | setter :: rest =>
      ((draft.set setter).lastStart? rest).or
        ((setter.start? draft).map fun started => (started, setter :: rest))

theorem pending_set {draft : Draft} {setter : Setter}
    (unfaulted : setter.fault? draft = none) :
    (draft.set setter).pending =
      ((setter.start? draft).or draft.pending).map (·.amend setter.edit?.toList) := by
  cases setter with
  | payload change => exact PayloadEdit.pending_apply unfaulted
  | _ =>
      change draft.pending = draft.pending.map (·.amend [])
      simp only [Payload.amend_nil, Option.map_id']

theorem edits_cons (setter : Setter) (rest : List Setter) :
    (setter :: rest).filterMap Setter.edit? =
      setter.edit?.toList ++ rest.filterMap Setter.edit? := by
  rw [List.filterMap_cons]
  cases setter.edit? <;> rfl

/-- By induction on the run: while nothing is started after a setter, the edits of the
rest amend what that setter left pending. -/
theorem pending_run {draft : Draft} {setters : List Setter}
    (unfaulted : draft.firstFault? setters = none) :
    (draft.run setters).pending =
      match draft.lastStart? setters with
      | some (started, since) => some (started.amend (since.filterMap Setter.edit?))
      | none => draft.pending.map (·.amend (setters.filterMap Setter.edit?)) := by
  induction setters generalizing draft with
  | nil =>
      change draft.pending = draft.pending.map (·.amend [])
      simp only [Payload.amend_nil, Option.map_id']
  | cons setter rest ih =>
      obtain ⟨first, later⟩ := Option.or_eq_none_iff.mp unfaulted
      rw [run_cons, ih later, lastStart?]
      cases (draft.set setter).lastStart? rest with
      | some last => rfl
      | none =>
          -- The last start, if there is one, is the one that the setter makes itself.
          simp only [pending_set first, Option.none_or]
          cases setter.start? draft with
          | some started =>
              simp only [Option.some_or, Option.map_some, edits_cons, Payload.amend_append]
          | none =>
              simp only [Option.none_or, Option.map_none, Option.map_map, Function.comp_def,
                edits_cons, Payload.amend_append]

theorem fault?_of_firstFault?_eq_none {draft : Draft} {setters : List Setter}
    (unfaulted : draft.firstFault? setters = none) {setter : Setter}
    (member : setter ∈ setters) : ∃ before, setter.fault? before = none := by
  induction setters generalizing draft with
  | nil => cases member
  | cons head rest ih =>
      obtain ⟨first, later⟩ := Option.or_eq_none_iff.mp unfaulted
      rcases List.mem_cons.mp member with rfl | inRest
      · exact ⟨draft, first⟩
      · exact ih later inRest

/-- The payload that a run without a failing setter leaves pending: what its last start
gives, or what was pending before the run if nothing is started, with each part as the
last setter from there on that sets it.  The bytes that numbers are stored in stand for
the numbers that were passed. -/
theorem pending_run_of_lastStart {draft : Draft} {setters : List Setter}
    (unfaulted : draft.firstFault? setters = none) :
    (∀ started since, draft.lastStart? setters = some (started, since) →
        (draft.run setters).pending =
          some (started.amend (since.filterMap Setter.edit?))) ∧
      (draft.lastStart? setters = none →
        (draft.run setters).pending =
          draft.pending.map (·.amend (setters.filterMap Setter.edit?))) ∧
      ∀ change given, .payload change ∈ setters → change.given? = some given →
        given.number.toUInt8.toNat = given.number.toNat := by
  refine ⟨?_, ?_, ?_⟩
  · intro started since last
    rw [pending_run unfaulted, last]
  · intro none
    rw [pending_run unfaulted, none]
  · intro change given member passes
    obtain ⟨before, legal⟩ := fault?_of_firstFault?_eq_none unfaulted member
    have inFile := (PayloadEdit.fault?_eq_none_iff.mp legal).2
    rw [passes] at inFile
    exact PayloadEdit.toNat_toUInt8_of_given? passes inFile

/-- A part of a memory reference discards the pending bank with its offset; the base is
set twice, and the offset of the bank is not taken for that of the reference. -/
theorem pending_run_of_lastStart_discardedBank :
    let since : List Setter :=
      [.payload (.referenceBase 255 .x4), .sizeBytes 8, .payload (.referenceDescriptor 63),
        .payload (.referenceBase 6 .u64)]
    let setters : List Setter :=
      [.payload (.constantBank 3), .payload (.bankImmOffset 16), .text "[R6]"] ++ since
    (start .reject).firstFault? setters = none ∧
      (start .reject).lastStart? setters = some (.memoryReference {}, since) ∧
      ((start .reject).run setters).pending =
        some (.memoryReference
          { base := some { number := 6, modifier := .u64 }, descriptor := some 63 }) := by
  intro since setters
  have unfaulted : (start .reject).firstFault? setters = none := by decide
  have last : (start .reject).lastStart? setters = some (.memoryReference {}, since) := by
    decide
  exact ⟨unfaulted, last, (pending_run_of_lastStart unfaulted).1 _ _ last⟩

end Draft

end GpuOperand

import GpuOperand.Proofs.Draft.Run

/-!
# Checkpoints

A draft that can be built may be built and reopened at any time without changing
what later setters make of it, as long as the policy is put back and not chosen
anew.  The two drafts are not equal: one may still hold a text that is too long,
where the other holds its beginning and remembers that it was cut.  What they
share is the text that an operand would get from them, and every setter keeps
that.
-/

namespace GpuOperand

namespace Draft

/-- Drafts that differ at most in how they hold their text. -/
structure Interchangeable (first second : Draft) : Prop where
  edited : first.edited = second.edited
  fields : ∀ field, field ≠ .text → first.read field = second.read field
  text : first.takenText = second.takenText

variable {first second : Draft}

/-- Setters keep drafts interchangeable, but for a policy, which might refuse a
text that is too long and take over its beginning. -/
theorem Interchangeable.set (same : Interchangeable first second) {setter : Setter}
    (keepsPolicy : setter.value? .policy = none) :
    Interchangeable (first.set setter) (second.set setter) where
  edited := by rw [edited_set, edited_set, same.edited]
  fields := by
    intro field other
    rw [read_set, read_set, same.fields field other]
  text := by
    have policy : first.policy = second.policy := same.fields .policy (by decide)
    rw [takenText_set keepsPolicy, takenText_set keepsPolicy, policy, same.text]

theorem Interchangeable.run (same : Interchangeable first second)
    {setters : List Setter}
    (keepPolicy : ∀ setter ∈ setters, setter.value? .policy = none) :
    Interchangeable (first.run setters) (second.run setters) := by
  induction setters generalizing first second with
  | nil => exact same
  | cons setter rest ih =>
      have next := same.set (keepPolicy setter List.mem_cons_self)
      exact ih next fun later member => keepPolicy later (List.mem_cons_of_mem _ member)

theorem Interchangeable.outcome_build (same : Interchangeable first second) :
    first.build.outcome = second.build.outcome := by
  have flags : first.header.flags = second.header.flags :=
    flags_eq_of_read_eq (same.fields .negated (by decide))
      (same.fields .inverted (by decide)) (same.fields .absolute (by decide))
  have width : first.header.sizeBytes = second.header.sizeBytes :=
    same.fields .sizeBytes (by decide)
  rw [Draft.outcome_build, Draft.outcome_build, same.edited, same.text, flags, width]

/-- A draft that builds an operand can be exchanged for a draft of that operand
with the same policy. -/
theorem interchangeable_toDraft {draft : Draft} {operand : Operand}
    (built : draft.build.outcome = .ok operand) :
    Interchangeable draft (operand.toDraft.set (.policy draft.policy)) := by
  obtain ⟨edited, _, taken, flags, width⟩ := outcome_build_eq_ok_iff.mp built
  obtain ⟨_, text⟩ := takenText_eq_ok_iff.mp taken
  refine ⟨edited, ?_, ?_⟩
  · intro field other
    cases field with
    | text => exact absurd rfl other
    | policy => rfl
    | negated => exact congrArg Flags.negated flags.symm
    | inverted => exact congrArg Flags.inverted flags.symm
    | absolute => exact congrArg Flags.absolute flags.symm
    | sizeBytes => exact width.symm
  · rw [taken, eq_comm, takenText_eq_ok_iff]
    have value : operand.text.value = BoundedText.beginning draft.header.text := by
      rw [text]
      rfl
    have truncated : operand.text.truncated =
        ((BoundedText.ofSource draft.header.text).mark draft.textTruncated).truncated := by
      rw [text]
    constructor
    · -- The beginning is never too long, so no policy refuses it.
      refine Or.inl ?_
      change operand.text.value.length ≤ maxChars
      rw [value]
      exact BoundedText.length_beginning_le draft.header.text
    · change operand.text =
        (BoundedText.ofSource operand.text.value).mark operand.text.truncated
      rw [value, truncated, BoundedText.ofSource_beginning_mark]
      exact text

/-- Building a draft and reopening the operand changes nothing about the operands
and errors that later setters lead to. -/
theorem outcome_build_run_toDraft {draft : Draft} {operand : Operand}
    {setters : List Setter} (built : draft.build.outcome = .ok operand)
    (keepPolicy : ∀ setter ∈ setters, setter.value? .policy = none) :
    (draft.run setters).build.outcome =
      ((operand.toDraft.set (.policy draft.policy)).run setters).build.outcome :=
  ((interchangeable_toDraft built).run keepPolicy).outcome_build

/-- The draft still holds a text that is too long, and the draft of its operand does
not; both go on to a bank with an offset. -/
theorem outcome_build_run_toDraft_longText :
    let long := String.ofList (List.replicate 300 'c')
    let draft := (start .truncate).run [.text long, .payload (.constantBank 3)]
    let operand : Operand :=
      { text := ⟨String.ofList (List.replicate 256 'c'), true⟩
        flags := {}
        sizeBytes := 0
        payload := .constantBank { bank := 3 } }
    let setters : List Setter := [.payload (.bankRegOffset 2), .absolute true]
    draft.build.outcome = .ok operand ∧
      (∀ setter ∈ setters, setter.value? .policy = none) ∧
      (draft.run setters).build.outcome =
        ((operand.toDraft.set (.policy draft.policy)).run setters).build.outcome := by
  intro long draft operand setters
  have cut : operand.text = (BoundedText.ofSource long).mark false := by
    rw [BoundedText.ofSource_ofList, List.take_replicate, List.length_replicate]
    rfl
  have built : draft.build.outcome = .ok operand :=
    outcome_build_eq_ok_iff.mpr
      ⟨rfl, rfl, takenText_eq_ok_iff.mpr ⟨Or.inr rfl, cut⟩, rfl, rfl⟩
  have keepPolicy : ∀ setter ∈ setters, setter.value? .policy = none := by
    simp [setters, Setter.value?]
  exact ⟨built, keepPolicy, outcome_build_run_toDraft built keepPolicy⟩

end Draft

end GpuOperand

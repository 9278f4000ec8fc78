import GpuOperand.Proofs.Draft.Run

/-!
# Lineages of operands

An operand is made from parts, or built from a draft that began empty or reopened
an earlier operand.  Its lineage is the chain of these steps, and names the text
that was supplied last on the way.  However long the chain, the text of the
operand is what the limit leaves of that text, and the mark of a cut tells
whether something is missing from it.
-/

namespace GpuOperand

/-- How an operand came about. -/
inductive Lineage where
  | parts (header : Header) (payload : Payload) (policy : TextPolicy)
  | ofKind (kind : Kind) (header : Header) (payload : Payload)
  /-- Built from a draft that began empty. -/
  | drafted (policy : TextPolicy) (setters : List Setter)
  /-- Built from a draft that reopened an operand of an earlier lineage. -/
  | rewritten (earlier : Lineage) (setters : List Setter)

namespace Lineage

/-- The operand at the end of a lineage, unless one of its steps fails. -/
def outcome : Lineage → Except OperandError Operand
  | parts header payload policy => (Operand.ofParts header payload policy).outcome
  | ofKind kind header payload => (Operand.ofKind kind header payload).outcome
  | drafted policy setters => ((Draft.start policy).run setters).build.outcome
  | rewritten earlier setters =>
      earlier.outcome.bind fun operand => (operand.toDraft.run setters).build.outcome

/-- The text supplied last, after another one was supplied. -/
def lastText (source : String) (setters : List Setter) : String :=
  (setters.filterMap (Setter.value? .text)).getLastD source

/-- The text supplied last along a lineage.  A draft begins with an empty one. -/
def suppliedText : Lineage → String
  | parts header _ _ => header.text
  | ofKind _ header _ => header.text
  | drafted _ setters => lastText "" setters
  | rewritten earlier setters => lastText earlier.suppliedText setters

/-- The drafts on the way to the operands of lineages. -/
inductive Passes : Draft → Prop where
  | fresh (policy : TextPolicy) (setters : List Setter) :
      Passes ((Draft.start policy).run setters)
  | reopened (lineage : Lineage) (operand : Operand) (setters : List Setter)
      (made : lineage.outcome = .ok operand) : Passes (operand.toDraft.run setters)

theorem Passes.set {draft : Draft} (passes : Passes draft) (setter : Setter) :
    Passes (draft.set setter) := by
  cases passes with
  | fresh policy setters =>
      rw [← Draft.run_concat]
      exact .fresh policy _
  | reopened lineage operand setters made =>
      rw [← Draft.run_concat]
      exact .reopened lineage operand _ made

theorem Passes.exists_lineage {draft : Draft} (passes : Passes draft) {operand : Operand}
    (built : draft.build.outcome = .ok operand) :
    ∃ lineage : Lineage, lineage.outcome = .ok operand := by
  cases passes with
  | fresh policy setters => exact ⟨.drafted policy setters, built⟩
  | reopened lineage earlier setters made =>
      exact ⟨.rewritten lineage setters, Except.bind_eq_ok_iff.mpr ⟨earlier, made, built⟩⟩

end Lineage

/-- A draft holds a supplied text, or its beginning if it was cut before the draft
was opened. -/
structure Draft.Carries (draft : Draft) (source : String) : Prop where
  text : draft.header.text =
    if draft.textTruncated then BoundedText.beginning source else source
  long_of_truncated : draft.textTruncated = true → maxChars < source.length

namespace Draft

theorem carries_start (policy : TextPolicy) : (start policy).Carries "" :=
  ⟨rfl, by simp [start]⟩

theorem carries_toDraft {operand : Operand} {source : String}
    (text : operand.text = .ofSource source) : operand.toDraft.Carries source := by
  rcases Nat.lt_or_ge maxChars source.length with long | fits
  · rw [BoundedText.ofSource_of_long long] at text
    exact ⟨by simp [Operand.toDraft, Operand.header, text], fun _ => long⟩
  · rw [BoundedText.ofSource_of_fits fits] at text
    exact ⟨by simp [Operand.toDraft, Operand.header, text], by simp [Operand.toDraft, text]⟩

/-- A new text replaces the one that was supplied before, cut or not. -/
theorem Carries.set {draft : Draft} {source : String} (carries : draft.Carries source)
    (setter : Setter) :
    (draft.set setter).Carries ((setter.value? .text).getD source) := by
  have text : (draft.set setter).header.text =
      (setter.value? .text).getD draft.header.text := read_set draft setter .text
  cases new : setter.value? .text with
  | none =>
      have kept : (draft.set setter).textTruncated = draft.textTruncated := by
        simp [textTruncated_set, new]
      rw [new] at text
      constructor
      · rw [text, kept]
        exact carries.text
      · rw [kept]
        exact carries.long_of_truncated
  | some value =>
      have uncut : (draft.set setter).textTruncated = false := by
        simp [textTruncated_set, new]
      rw [new] at text
      exact ⟨by simp [uncut, text], by simp [uncut]⟩

theorem Carries.run {draft : Draft} {source : String} (carries : draft.Carries source)
    (setters : List Setter) :
    (draft.run setters).Carries (Lineage.lastText source setters) := by
  induction setters generalizing draft source with
  | nil => exact carries
  | cons setter rest ih =>
      rw [run_cons, Lineage.lastText, getLastD_filterMap_cons]
      exact ih (carries.set setter)

theorem Carries.text_of_build {draft : Draft} {source : String}
    (carries : draft.Carries source) {operand : Operand}
    (built : draft.build.outcome = .ok operand) :
    operand.text = .ofSource source := by
  obtain ⟨_, _, taken, _⟩ := outcome_build_eq_ok_iff.mp built
  obtain ⟨_, text⟩ := takenText_eq_ok_iff.mp taken
  rw [text, carries.text]
  cases truncated : draft.textTruncated with
  | false => simp [BoundedText.mark]
  | true =>
      have long := carries.long_of_truncated truncated
      rw [BoundedText.ofSource_of_long long, if_pos rfl,
        BoundedText.ofSource_of_fits (BoundedText.length_beginning_le source)]
      rfl

end Draft

namespace Lineage

theorem text_eq_ofSource {lineage : Lineage} {operand : Operand}
    (made : lineage.outcome = .ok operand) :
    operand.text = .ofSource lineage.suppliedText := by
  induction lineage generalizing operand with
  | parts header payload policy =>
      obtain ⟨_, _, rfl⟩ := Operand.outcome_ofParts_eq_ok_iff.mp made
      rfl
  | ofKind kind header payload =>
      obtain ⟨_, madeOfParts⟩ := Operand.outcome_ofKind_eq_ok_iff.mp made
      obtain ⟨_, _, rfl⟩ := Operand.outcome_ofParts_eq_ok_iff.mp madeOfParts
      rfl
  | drafted policy setters =>
      exact ((Draft.carries_start policy).run setters).text_of_build made
  | rewritten earlier setters ih =>
      obtain ⟨reopened, earlierMade, built⟩ := Except.bind_eq_ok_iff.mp made
      have carries := Draft.carries_toDraft (ih earlierMade)
      exact (carries.run setters).text_of_build built

theorem wellFormed_of_outcome {lineage : Lineage} {operand : Operand}
    (made : lineage.outcome = .ok operand) :
    operand.WellFormed := by
  constructor
  · cases lineage with
    | parts header payload policy =>
        exact (Operand.wellFormed_of_ofParts made).valid
    | ofKind kind header payload =>
        obtain ⟨_, madeOfParts⟩ := Operand.outcome_ofKind_eq_ok_iff.mp made
        exact (Operand.wellFormed_of_ofParts madeOfParts).valid
    | drafted policy setters =>
        exact (Draft.outcome_build_eq_ok_iff.mp made).2.1
    | rewritten earlier setters =>
        obtain ⟨_, _, built⟩ := Except.bind_eq_ok_iff.mp made
        exact (Draft.outcome_build_eq_ok_iff.mp built).2.1
  · rw [text_eq_ofSource made]
    exact BoundedText.withinLimit_ofSource lineage.suppliedText

/-- The text of an operand is the beginning of the text that was supplied last, and
it is marked as cut if and only if that text was too long. -/
theorem text_of_outcome {lineage : Lineage} {operand : Operand}
    (made : lineage.outcome = .ok operand) :
    operand.text.value = String.ofList (lineage.suppliedText.toList.take maxChars) ∧
      (operand.text.truncated = true ↔ maxChars < lineage.suppliedText.length) := by
  rw [text_eq_ofSource made]
  exact ⟨rfl, by simp [BoundedText.ofSource]⟩

/-- A long text is cut, and the operand rewritten under the policy that would have
refused it. -/
theorem text_of_outcome_rewritten :
    let long := String.ofList (List.replicate 300 'R')
    let lineage : Lineage :=
      .rewritten (.drafted .truncate [.text "R1", .text long, .payload (.integer 7)])
        [.negated true, .payload (.predicate 8)]
    let operand : Operand :=
      { text := ⟨String.ofList (List.replicate 256 'R'), true⟩
        flags := { negated := true }
        sizeBytes := 0
        payload := .predicate { number := 8 } }
    lineage.outcome = .ok operand ∧
      operand.text.value = String.ofList (lineage.suppliedText.toList.take maxChars) ∧
      (operand.text.truncated = true ↔ maxChars < lineage.suppliedText.length) := by
  intro long lineage operand
  have cut : operand.text = (BoundedText.ofSource long).mark false := by
    rw [BoundedText.ofSource_ofList, List.take_replicate, List.length_replicate]
    rfl
  have drafted :
      (Lineage.drafted .truncate [.text "R1", .text long, .payload (.integer 7)]).outcome =
        .ok { operand with flags := {}, payload := .integer 7 } :=
    Draft.outcome_build_eq_ok_iff.mpr
      ⟨rfl, rfl, Draft.takenText_eq_ok_iff.mpr ⟨Or.inr rfl, cut⟩, rfl, rfl⟩
  have fits : operand.text.value.length ≤ maxChars := by
    rw [String.length_ofList, List.length_replicate]
    exact Nat.le_refl maxChars
  have kept : operand.text = (BoundedText.ofSource operand.text.value).mark true := by
    rw [BoundedText.ofSource_of_fits fits]
    rfl
  have made : lineage.outcome = .ok operand :=
    Except.bind_eq_ok_iff.mpr ⟨_, drafted, Draft.outcome_build_eq_ok_iff.mpr
      ⟨rfl, rfl, Draft.takenText_eq_ok_iff.mpr ⟨Or.inl fits, kept⟩, rfl, rfl⟩⟩
  exact ⟨made, text_of_outcome made⟩

end Lineage

end GpuOperand

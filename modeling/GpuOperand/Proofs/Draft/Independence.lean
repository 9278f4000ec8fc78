import GpuOperand.Proofs.Draft.Run

/-!
# Independence of the fields of a draft

The fields of a draft do not disturb each other, and they disturb neither its payload
nor the failure that it keeps.  A run of setters can therefore be reordered at will, as
long as the edits of the payload stay in their order and each field is written last with
the same value: the draft that it leaves behind is the same in every part, its hidden
mark of a cut text and its failure included.
-/

namespace GpuOperand

attribute [ext] Draft

namespace Setter

/-- The value that a run of setters writes last to a field, if it writes to it. -/
def lastValue? (field : Draft.Field) (setters : List Setter) : Option field.Value :=
  (setters.filterMap (value? field)).getLast?

end Setter

namespace Draft

/-- The field keeps its value where the run does not write to it. -/
theorem read_run_eq_lastValue? (draft : Draft) (setters : List Setter) (field : Field) :
    (draft.run setters).read field =
      (Setter.lastValue? field setters).getD (draft.read field) := by
  rw [read_run, List.getLastD_eq_getLast?]
  rfl

theorem textTruncated_run_eq_lastValue? (draft : Draft) (setters : List Setter) :
    (draft.run setters).textTruncated =
      (draft.textTruncated && (Setter.lastValue? .text setters).isNone) := by
  have unwritten : (setters.filterMap (Setter.value? .text)).isEmpty =
      (Setter.lastValue? .text setters).isNone := by
    rw [Setter.lastValue?, Bool.eq_iff_iff, List.isEmpty_iff, Option.isNone_iff_eq_none,
      List.getLast?_eq_none_iff]
  rw [textTruncated_run, unwritten]

variable {draft : Draft} {first second : List Setter}

/-- The edits of a run and the last value that it writes to each field decide what it
leaves behind. -/
theorem run_congr
    (sameEdits : first.filterMap Setter.edit? = second.filterMap Setter.edit?)
    (sameLast : ∀ field, Setter.lastValue? field first = Setter.lastValue? field second) :
    draft.run first = draft.run second := by
  have sameFields : ∀ field, (draft.run first).read field = (draft.run second).read field := by
    intro field
    rw [read_run_eq_lastValue?, read_run_eq_lastValue?, sameLast field]
  obtain ⟨sameHeader, samePolicy⟩ := header_eq_of_read_eq sameFields
  have sameMark : (draft.run first).textTruncated = (draft.run second).textTruncated := by
    rw [textTruncated_run_eq_lastValue?, textTruncated_run_eq_lastValue?, sameLast .text]
  have sameEdited : (draft.run first).edited = (draft.run second).edited := by
    rw [edited_run, edited_run, sameEdits]
  obtain ⟨samePending, sameFailure⟩ := EditResult.mk.inj sameEdited
  exact Draft.ext sameHeader sameMark samePending samePolicy sameFailure

/-- Two runs that edit the payload alike, and that write the same value last to each
field that they write to, lead to the same operand or the same error, with the same
notices. -/
theorem build_run_congr
    (sameEdits : first.filterMap Setter.edit? = second.filterMap Setter.edit?)
    (sameLast : ∀ field, Setter.lastValue? field first = Setter.lastValue? field second) :
    (draft.run first).build = (draft.run second).build :=
  congrArg build (run_congr sameEdits sameLast)

/-- An operand whose text was cut is reopened.  One run writes the fields between the
edits, some of them twice, and the other writes each of them once before the edits. -/
theorem build_run_congr_reopened :
    let operand : Operand :=
      { text := ⟨String.ofList (List.replicate 256 'R'), true⟩
        flags := { inverted := true }
        sizeBytes := 4
        payload := .integer 7 }
    let scattered : List Setter :=
      [.policy .truncate, .payload (.constantBank 3), .negated true, .sizeBytes 8,
        .payload (.bankRegOffset 255), .policy .reject, .sizeBytes 16, .negated false,
        .payload (.referenceImmOffset (-4))]
    let gathered : List Setter :=
      [.negated false, .sizeBytes 16, .policy .reject, .payload (.constantBank 3),
        .payload (.bankRegOffset 255), .payload (.referenceImmOffset (-4))]
    scattered.filterMap Setter.edit? = gathered.filterMap Setter.edit? ∧
      (∀ field, Setter.lastValue? field scattered = Setter.lastValue? field gathered) ∧
      (operand.toDraft.run scattered).build = (operand.toDraft.run gathered).build := by
  intro operand scattered gathered
  have sameEdits : scattered.filterMap Setter.edit? = gathered.filterMap Setter.edit? := rfl
  have sameLast : ∀ field,
      Setter.lastValue? field scattered = Setter.lastValue? field gathered := by
    intro field
    cases field <;> rfl
  exact ⟨sameEdits, sameLast, build_run_congr sameEdits sameLast⟩

end Draft

end GpuOperand

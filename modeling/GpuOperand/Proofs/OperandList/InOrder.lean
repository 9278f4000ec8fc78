import GpuOperand.OperandList.Basic
import GpuOperand.Proofs.Draft.Failure
import Mathlib.Data.List.TakeWhile

/-!
# Building operands in order

The drafts of an instruction are built one after another, and the first that fails ends
it: its error is reported, whatever else would be wrong with the list, and only the
warnings of the drafts before it have been given.  If all drafts can be built, their
operands are taken over in the same order, and what is noted about the list follows the
warnings of all drafts.
-/

namespace GpuOperand

def Logged.warnings {Error Value : Type} (logged : Logged Error Value) : List Notice :=
  logged.notices.filter (·.level = .warning)

theorem BoundedText.level_of_mem_notices_ofString {source : String} {policy : TextPolicy}
    {notice : Notice} (given : notice ∈ (ofString source policy).notices) :
    notice.level = .warning := by
  rcases Nat.lt_or_ge maxChars source.length with long | fits
  · cases policy with
    | reject =>
        rw [ofString_reject_of_long long] at given
        cases given
    | truncate =>
        rw [ofString_truncate_of_long long] at given
        rw [List.mem_singleton.mp given]
        rfl
  · rw [ofString_of_fits fits] at given
    cases given

theorem Operand.level_of_mem_notices_ofParts {header : Header} {payload : Payload}
    {policy : TextPolicy} {notice : Notice}
    (given : notice ∈ (ofParts header payload policy).notices) :
    notice.level = .warning := by
  cases validated : payload.validate with
  | error violation =>
      rw [ofParts_of_violation validated] at given
      cases given
  | ok =>
      rw [ofParts_of_valid validated] at given
      exact BoundedText.level_of_mem_notices_ofString given

/-- Nothing but warnings is given on the way to an operand. -/
theorem Draft.warnings_build (draft : Draft) :
    draft.build.warnings = draft.build.notices := by
  rw [Logged.warnings, List.filter_eq_self]
  intro notice given
  rw [decide_eq_true_eq]
  unfold build at given
  split at given
  · cases given
  · cases given
  · exact Operand.level_of_mem_notices_ofParts given

namespace OperandList

/-- The error of the first draft that cannot be built. -/
def firstError? (drafts : List Draft) : Option OperandError :=
  drafts.findSome? (·.build.outcome.error?)

/-- The drafts before the first that cannot be built. -/
def builtFirst (drafts : List Draft) : List Draft :=
  drafts.takeWhile (·.build.outcome.isOk)

/-- The operands of the drafts that can be built. -/
def builtOperands (drafts : List Draft) : List Operand :=
  drafts.filterMap (·.build.outcome.toOption)

variable {draft : Draft}

theorem buildAll_cons_of_ok {operand : Operand} (built : draft.build.outcome = .ok operand)
    (rest : List Draft) :
    buildAll (draft :: rest) =
      ⟨(buildAll rest).outcome.map (operand :: ·),
        draft.build.warnings ++ (buildAll rest).notices⟩ := by
  rw [buildAll, Logged.bind, built, Draft.warnings_build]
  rfl

/-- A draft that fails adds no notice, and the drafts behind it are not built. -/
theorem buildAll_cons_of_error {error : OperandError}
    (refused : draft.build.outcome = .error error) (rest : List Draft) :
    buildAll (draft :: rest) = .fail error := by
  rw [buildAll, draft.failsSilently_build error refused, Logged.bind_fail]

/-- By induction on the drafts: a draft that fails ends the list, and one that does not
adds its operand and its warnings in front of those of the rest. -/
theorem buildAll_eq (drafts : List Draft) :
    buildAll drafts =
      ⟨match firstError? drafts with
        | some error => .error error
        | none => .ok (builtOperands drafts),
        (builtFirst drafts).flatMap (·.build.warnings)⟩ := by
  induction drafts with
  | nil => rfl
  | cons draft rest ih =>
      cases outcome : draft.build.outcome with
      | error error =>
          have first : firstError? (draft :: rest) = some error := by
            simp [firstError?, outcome, Except.error?]
          have before : builtFirst (draft :: rest) = [] := by
            simp [builtFirst, outcome, Except.isOk, Except.toBool]
          rw [buildAll_cons_of_error outcome, first, before]
          rfl
      | ok operand =>
          have first : firstError? (draft :: rest) = firstError? rest := by
            simp [firstError?, outcome, Except.error?]
          have before : builtFirst (draft :: rest) = draft :: builtFirst rest := by
            simp [builtFirst, outcome, Except.isOk, Except.toBool]
          have operands : builtOperands (draft :: rest) = operand :: builtOperands rest := by
            simp [builtOperands, outcome, Except.toOption]
          rw [buildAll_cons_of_ok outcome, ih, first, before, operands, List.flatMap_cons]
          cases firstError? rest <;> rfl

theorem builtFirst_eq_self {drafts : List Draft} (built : firstError? drafts = none) :
    builtFirst drafts = drafts := by
  rw [builtFirst, List.takeWhile_eq_self_iff]
  intro draft member
  have unrefused := List.findSome?_eq_none_iff.mp built draft member
  cases outcome : draft.build.outcome with
  | error error => simp [outcome, Except.error?] at unrefused
  | ok operand => rfl

/-- The drafts of an instruction are built in order.  If one of them fails, the error of
the first that does is reported, and the notices are the warnings of the drafts before
it.  Otherwise the operands are taken over in the same order, and the notices are the
warnings of all drafts, followed by what is noted about the list. -/
theorem ofDrafts_eq (space : MemorySpace) (drafts : List Draft) :
    ofDrafts space drafts =
      match firstError? drafts with
      | some error =>
          ⟨.error (.operand error), (builtFirst drafts).flatMap (·.build.warnings)⟩
      | none =>
          let list := ofOperands space (builtOperands drafts)
          ⟨list.outcome, drafts.flatMap (·.build.warnings) ++ list.notices⟩ := by
  rw [ofDrafts, buildAll_eq]
  cases built : firstError? drafts with
  | some error => rfl
  | none =>
      rw [builtFirst_eq_self built]
      rfl

/-- A draft that fails is reported before the number of references is looked at. -/
example :
    let reference := (Draft.start .reject).run [.payload .memoryReference]
    let refused := (Draft.start .truncate).run [.payload (.predicate 12)]
    ofDrafts .global [reference, reference, reference, refused] =
      .fail (.operand (.outOfRange .predicate "num" 12 8)) := by
  rfl

end OperandList

end GpuOperand

import GpuOperand.Proofs.Operand.Dispatch
import GpuOperand.Proofs.OperandList.Rebuild
import GpuOperand.Proofs.OperandList.Views

/-!
# Acceptance of operand lists

How many of its operands are memory references decides all about a list: more than two are
refused, and no space would take them; two or fewer are taken over as they are, with a
notice for debugging if the space expects fewer.  So neither the order of the operands nor
any other operand among them makes a difference.
-/

namespace GpuOperand

theorem MemorySpace.maxMemRefs_le_ceiling (space : MemorySpace) :
    space.maxMemRefs ≤ memRefCeiling := by
  cases space <;> decide

namespace OperandList

/-- What can become of the operands of an instruction. -/
inductive Standing where
  | rejected
  | flagged
  | unremarked
  deriving DecidableEq

def standing (taken : Logged OperandListError OperandList) : Standing :=
  match taken.outcome with
  | .error _ => .rejected
  | .ok _ => if taken.notices.isEmpty then .unremarked else .flagged

/-- The second list is made from the first by reordering operands, and by inserting and
removing some that are no memory references. -/
inductive Rearranged : List Operand → List Operand → Prop where
  | reorder {first second : List Operand} (permuted : first.Perm second) :
      Rearranged first second
  | insert {operand : Operand} (front back : List Operand)
      (other : operand.kind ≠ .memoryReference) :
      Rearranged (front ++ back) (front ++ operand :: back)
  | remove {operand : Operand} (front back : List Operand)
      (other : operand.kind ≠ .memoryReference) :
      Rearranged (front ++ operand :: back) (front ++ back)
  | trans {first second third : List Operand} (former : Rearranged first second)
      (latter : Rearranged second third) : Rearranged first third

theorem referenceCount_insert {operand : Operand} (front back : List Operand)
    (other : operand.kind ≠ .memoryReference) :
    referenceCount (front ++ operand :: back) = referenceCount (front ++ back) := by
  have uncounted : operand.isOf .memoryReference = false := by
    rw [Bool.eq_false_iff, ne_eq, Operand.isOf_iff]
    exact other
  simp [referenceCount, uncounted]

theorem Rearranged.referenceCount_eq {first second : List Operand}
    (rearranged : Rearranged first second) :
    referenceCount first = referenceCount second := by
  induction rearranged with
  | reorder permuted => exact permuted.countP_eq _
  | insert front back other => exact (referenceCount_insert front back other).symm
  | remove front back other => exact referenceCount_insert front back other
  | trans _ _ former latter => exact former.trans latter

theorem standing_ofOperands (space : MemorySpace) (operands : List Operand) :
    standing (ofOperands space operands) =
      if 2 < referenceCount operands then .rejected
      else if referenceCount operands ≤ space.maxMemRefs then .unremarked
      else .flagged := by
  rcases Nat.lt_or_ge 2 (referenceCount operands) with many | few
  · rw [ofOperands_of_many space many, if_pos many]
    rfl
  · rw [ofOperands_of_few space few, if_neg (Nat.not_lt.mpr few)]
    by_cases fits : referenceCount operands ≤ space.maxMemRefs <;> simp [standing, fits]

/-- What the number of memory references decides about operands for a space. -/
structure JudgedByReferences (space : MemorySpace) (operands : List Operand) : Prop where
  rejected : 2 < referenceCount operands →
    ∃ notice : Notice,
      ofOperands space operands =
        ⟨.error (.tooManyMemRefs (referenceCount operands) 2), [notice]⟩ ∧
      notice.level = .debug ∧
      notice.message =
        "rejecting " ++ NameTable.name space ++ " operand list [" ++
          ", ".intercalate (operands.map (·.kind.name)) ++ "]"
  accepted : referenceCount operands ≤ 2 →
    ∃ list notices,
      ofOperands space operands = ⟨.ok list, notices⟩ ∧
      list.space = space ∧ list.operands = operands ∧
      list.memRefs.map .memoryReference =
        (operands.map Operand.payload).filter (·.kind = .memoryReference) ∧
      list.memRefs.length = referenceCount operands ∧
      (list.fitsSpace = true ↔ referenceCount operands ≤ space.maxMemRefs) ∧
      (list.fitsSpace = true → notices = []) ∧
      (list.fitsSpace = false →
        ∃ notice : Notice, notices = [notice] ∧ notice.level = .debug ∧
          notice.message =
            NameTable.name space ++ " instruction carries " ++
              Numeral.decimal (referenceCount operands) ++
              " memory references, expected at most " ++
              Numeral.decimal space.maxMemRefs)
  rearranged : ∀ other, Rearranged operands other →
    standing (ofOperands space other) = standing (ofOperands space operands)
  nowhere : standing (ofOperands space operands) = .rejected →
    ∀ other : MemorySpace, standing (ofOperands other operands) = .rejected ∧
      fitsSpace { space := other, operands } = false

theorem judgedByReferences (space : MemorySpace) (operands : List Operand) :
    JudgedByReferences space operands := by
  constructor
  · intro many
    have names : (operands.map Operand.kind).map Kind.name = operands.map (·.kind.name) :=
      List.map_map
    refine ⟨_, ofOperands_of_many space many, rfl, ?_⟩
    rw [Notice.message, names]
  · intro few
    refine ⟨_, _, ofOperands_of_few space few, rfl, rfl,
      map_ofContent_filterMap .memoryReference operands, length_referencesIn operands,
      fitsSpace_iff, ?_, ?_⟩
    · intro fits
      exact if_pos (fitsSpace_iff.mp fits)
    · intro exceeds
      have above : ¬ referenceCount operands ≤ space.maxMemRefs :=
        fun fits => Bool.eq_false_iff.mp exceeds (fitsSpace_iff.mpr fits)
      exact ⟨_, if_neg above, rfl, rfl⟩
  · intro other rearranged
    rw [standing_ofOperands, standing_ofOperands, rearranged.referenceCount_eq]
  · intro rejected other
    have many : 2 < referenceCount operands := by
      rw [standing_ofOperands] at rejected
      split_ifs at rejected
      assumption
    constructor
    · rw [standing_ofOperands, if_pos many]
    · rw [Bool.eq_false_iff, ne_eq, fitsSpace_iff]
      exact Nat.not_le.mpr (Nat.lt_of_le_of_lt other.maxMemRefs_le_ceiling many)

/-- Two references are more than global memory expects, and three are too many. -/
theorem judgedByReferences_global :
    let operand (payload : Payload) : Operand :=
      { text := {}, flags := {}, sizeBytes := 0, payload }
    let reference := operand (.memoryReference { immOffset := some (-4) })
    let register := operand (.register { number := 255 })
    let pair := [reference, register, reference]
    (∃ list notice,
        ofOperands .global pair = ⟨.ok list, [notice]⟩ ∧ list.operands = pair ∧
          notice.level = .debug ∧
          notice.message =
            "GLOBAL instruction carries 2 memory references, expected at most 1") ∧
      standing (ofOperands .global [reference, reference]) = .flagged ∧
      ∃ notice,
        ofOperands .global (reference :: pair) =
          ⟨.error (.tooManyMemRefs 3 2), [notice]⟩ ∧
          notice.message =
            "rejecting GLOBAL operand list [MREF, MREF, REG, MREF]" := by
  intro operand reference register pair
  obtain ⟨list, notices, taken, _, same, _, _, fits, _, flagged⟩ :=
    (judgedByReferences .global pair).accepted (by decide)
  have exceeds : list.fitsSpace = false := Bool.eq_false_iff.mpr (mt fits.mp (by decide))
  obtain ⟨notice, rfl, level, message⟩ := flagged exceeds
  have removed := (judgedByReferences .global pair).rearranged [reference, reference]
    (.remove [reference] [reference] (by decide))
  obtain ⟨refusal, refused, _, kinds⟩ :=
    (judgedByReferences .global (reference :: pair)).rejected (by decide)
  refine ⟨⟨list, notice, taken, same, level, message.trans (by decide)⟩, ?_, refusal,
    refused, kinds⟩
  rw [removed]
  rfl

end OperandList

end GpuOperand

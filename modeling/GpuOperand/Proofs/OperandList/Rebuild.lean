import GpuOperand.Proofs.Operand.Remake
import GpuOperand.Proofs.OperandList.SameValue
import GpuOperand.Proofs.OperandList.Views

/-!
# Rebuilding operand lists

An operand that a session made can be reopened and built again, whatever it is and
whatever was cut from its text.  So can all operands of an instruction, and the list
that comes out is the list that went in.  The only notice is the one that a list with
more memory references than its space expects always causes.  As numbers the two lists
agree unless a NaN is among the literals.
-/

namespace GpuOperand

namespace Logged

variable {Error Value Result : Type}

theorem outcome_bind (logged : Logged Error Value) (step : Value → Logged Error Result) :
    (logged.bind step).outcome = logged.outcome.bind fun value => (step value).outcome := by
  obtain ⟨outcome, notices⟩ := logged
  cases outcome <;> rfl

theorem outcome_mapError_eq_ok_iff {Other : Type} {logged : Logged Error Value}
    {transform : Error → Other} {value : Value} :
    (logged.mapError transform).outcome = .ok value ↔ logged.outcome = .ok value := by
  obtain ⟨outcome, notices⟩ := logged
  cases outcome with
  | ok found => constructor <;> rintro ⟨⟩ <;> rfl
  | error cause => constructor <;> rintro ⟨⟩

end Logged

namespace OperandList

/-- How the operands of an instruction come about. -/
inductive Constructible : OperandList → Prop where
  | empty : Constructible {}
  | ofOperands {space : MemorySpace} {operands : List Operand} {list : OperandList}
      (constructible : ∀ operand ∈ operands, operand.Constructible)
      (made : (ofOperands space operands).outcome = .ok list) : Constructible list
  | ofDrafts {space : MemorySpace} {drafts : List Draft} {list : OperandList}
      (constructible : ∀ draft ∈ drafts, draft.Constructible)
      (made : (ofDrafts space drafts).outcome = .ok list) : Constructible list

/-- What holds of every operand list, however it came about. -/
structure WellFormed (list : OperandList) : Prop where
  operands : ∀ operand ∈ list.operands, operand.WellFormed
  memRefs : list.memRefs.length ≤ MemorySpace.memRefCeiling

theorem ofOperands_of_many {operands : List Operand} (space : MemorySpace)
    (many : MemorySpace.memRefCeiling < referenceCount operands) :
    ofOperands space operands =
      ⟨.error (.tooManyMemRefs (referenceCount operands) MemorySpace.memRefCeiling),
        [.listRejected space (operands.map Operand.kind)]⟩ := by
  rw [ofOperands]
  simp only [length_filter_isMemoryReference, if_pos many]
  rfl

/-- The operands that are memory references are as many as what they carry, so the ceiling
and the space are compared with the same number. -/
theorem ofOperands_of_few {operands : List Operand} (space : MemorySpace)
    (few : referenceCount operands ≤ MemorySpace.memRefCeiling) :
    ofOperands space operands =
      ⟨.ok { space, operands },
        if referenceCount operands ≤ space.maxMemRefs then []
        else [.memRefsExceedSpace space (referenceCount operands)]⟩ := by
  rw [ofOperands]
  simp only [length_filter_isMemoryReference, if_neg (Nat.not_lt.mpr few), fitsSpace_iff]
  split <;> rfl

theorem outcome_ofOperands_eq_ok_iff {space : MemorySpace} {operands : List Operand}
    {list : OperandList} :
    (ofOperands space operands).outcome = .ok list ↔
      list = { space, operands } ∧ list.memRefs.length ≤ MemorySpace.memRefCeiling := by
  rw [length_memRefs]
  rcases Nat.lt_or_ge MemorySpace.memRefCeiling (referenceCount operands) with many | few
  · rw [ofOperands_of_many space many]
    constructor
    · rintro ⟨⟩
    · rintro ⟨rfl, few⟩
      exact absurd many (Nat.not_lt.mpr few)
  · rw [ofOperands_of_few space few]
    constructor
    · rintro ⟨⟩
      exact ⟨rfl, few⟩
    · rintro ⟨rfl, _⟩
      rfl

/-- All drafts are built if each of them is. -/
theorem outcome_buildAll_eq_ok_iff {drafts : List Draft} {operands : List Operand} :
    (buildAll drafts).outcome = .ok operands ↔
      drafts.map (·.build.outcome) = operands.map .ok := by
  induction drafts generalizing operands with
  | nil => simp [buildAll, Logged.ok, eq_comm]
  | cons draft rest ih =>
      rw [buildAll, Logged.outcome_bind, Except.bind_eq_ok_iff, List.map_cons]
      simp only [Logged.map, Except.map_eq_ok_iff, ih]
      constructor
      · rintro ⟨operand, built, others, builtOthers, rfl⟩
        rw [built, builtOthers, List.map_cons]
      · intro builtAll
        cases operands with
        | nil => simp at builtAll
        | cons operand others =>
            obtain ⟨built, builtOthers⟩ := List.cons_eq_cons.mp builtAll
            exact ⟨operand, built, others, builtOthers, rfl⟩

theorem Constructible.wellFormed {list : OperandList} (constructible : list.Constructible) :
    list.WellFormed := by
  cases constructible with
  | empty => exact ⟨by simp, Nat.zero_le _⟩
  | ofOperands made outcome =>
      obtain ⟨rfl, few⟩ := outcome_ofOperands_eq_ok_iff.mp outcome
      exact ⟨fun operand member => (made operand member).wellFormed, few⟩
  | @ofDrafts space drafts _ made outcome =>
      rw [OperandList.ofDrafts, Logged.outcome_bind, Except.bind_eq_ok_iff] at outcome
      obtain ⟨operands, builtAll, taken⟩ := outcome
      obtain ⟨rfl, few⟩ := outcome_ofOperands_eq_ok_iff.mp taken
      rw [Logged.outcome_mapError_eq_ok_iff, outcome_buildAll_eq_ok_iff] at builtAll
      refine ⟨fun operand member => ?_, few⟩
      have outcomeMember : Except.ok operand ∈ drafts.map (·.build.outcome) := by
        rw [builtAll]
        exact List.mem_map_of_mem member
      obtain ⟨draft, draftMember, built⟩ := List.mem_map.mp outcomeMember
      exact ((made draft draftMember).build built).wellFormed

/-- Building reopened operands is silent and makes each of them again. -/
theorem buildAll_map_toDraft {operands : List Operand}
    (wellFormed : ∀ operand ∈ operands, operand.WellFormed) :
    buildAll (operands.map Operand.toDraft) = .ok operands := by
  induction operands with
  | nil => rfl
  | cons operand rest ih =>
      have restMade := ih fun later member => wellFormed later (List.mem_cons_of_mem _ member)
      rw [List.map_cons, buildAll, (wellFormed operand List.mem_cons_self).build_toDraft,
        Logged.bind_ok, restMade, Logged.map_ok]

theorem WellFormed.ofDrafts_map_toDraft {list : OperandList} (wellFormed : list.WellFormed) :
    ofDrafts list.space (list.operands.map Operand.toDraft) =
      ⟨.ok list,
        if list.fitsSpace then []
        else [.memRefsExceedSpace list.space list.memRefs.length]⟩ := by
  have taken : (Logged.ok list.operands : Logged OperandError (List Operand)).mapError
      OperandListError.operand = Logged.ok list.operands := rfl
  have few := wellFormed.memRefs
  rw [length_memRefs] at few
  rw [ofDrafts, buildAll_map_toDraft wellFormed.operands, taken, Logged.bind_ok,
    ofOperands_of_few list.space few, length_memRefs]
  simp only [fitsSpace_iff]

/-- Reopening all operands of a constructible list and building them again gives the
same list.  There is no warning, and one notice for debugging if the list has more
memory references than its space expects.  The two lists are equal as numbers if and
only if no literal is a NaN. -/
theorem exists_rebuilt {list : OperandList} (constructible : list.Constructible) :
    ∃ rebuilt,
      (ofDrafts list.space (list.operands.map Operand.toDraft)).outcome = .ok rebuilt ∧
        rebuilt = list ∧
        (ofDrafts list.space (list.operands.map Operand.toDraft)).notices.map Notice.level =
          (if list.fitsSpace then [] else [.debug]) ∧
        (rebuilt.sameValue list = true ↔
          ∀ operand ∈ list.operands, ∀ value,
            operand.payload = .float value → value.isNaN = false) := by
  have rebuild := constructible.wellFormed.ofDrafts_map_toDraft
  refine ⟨list, by rw [rebuild], rfl, ?_, ?_⟩
  · rw [rebuild]
    cases list.fitsSpace <;> rfl
  · simp only [sameValue_self_iff, Operand.sameValue_self_iff]

/-- A cut text, a NaN, and two memory references where one is expected. -/
theorem exists_rebuilt_flaggedWithNaN :
    let long := String.ofList (List.replicate 256 'R')
    let list : OperandList :=
      { space := .global
        operands :=
          [{ text := ⟨long, true⟩, flags := {}, sizeBytes := 8,
             payload := .memoryReference { base := some { number := 6 } } },
            { text := ⟨"NaN", false⟩, flags := { negated := true }, sizeBytes := 0,
              payload := .float ⟨0x7FF8000000000001⟩ },
            { text := ⟨"[-0x4]", false⟩, flags := {}, sizeBytes := 4,
              payload := .memoryReference { immOffset := some (-4) } }] }
    list.Constructible ∧ list.fitsSpace = false ∧
      ∃ rebuilt,
        (ofDrafts list.space (list.operands.map Operand.toDraft)).outcome = .ok rebuilt ∧
          rebuilt = list ∧
          (ofDrafts list.space (list.operands.map Operand.toDraft)).notices.map Notice.level =
            [.debug] ∧
          rebuilt.sameValue list = false := by
  intro long list
  have full : long.length = maxChars := by
    rw [String.length_ofList, List.length_replicate]
    rfl
  have made : ∀ operand ∈ list.operands, operand.Constructible := by
    intro operand member
    apply Operand.WellFormed.constructible
    simp only [list, List.mem_cons, List.not_mem_nil, or_false] at member
    rcases member with rfl | rfl | rfl
    · exact ⟨rfl, Nat.le_of_eq full, fun _ => full⟩
    · exact ⟨rfl, by decide, by simp⟩
    · exact ⟨rfl, by decide, by simp⟩
  have taken : (ofOperands .global list.operands).outcome = .ok list := rfl
  have constructible : list.Constructible := .ofOperands made taken
  have exceeds : list.fitsSpace = false := rfl
  obtain ⟨rebuilt, outcome, same, levels, sameNumbers⟩ := exists_rebuilt constructible
  refine ⟨constructible, exceeds, rebuilt, outcome, same, ?_, ?_⟩
  · rw [levels, exceeds]
    rfl
  · rw [Bool.eq_false_iff]
    intro equal
    have number := sameNumbers.mp equal _ (List.mem_cons_of_mem _ List.mem_cons_self) _ rfl
    exact absurd number (by decide)

end OperandList

end GpuOperand

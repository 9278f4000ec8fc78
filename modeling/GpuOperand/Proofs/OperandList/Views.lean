import GpuOperand.Proofs.OperandList.Histogram
import GpuOperand.Proofs.Payload.Content

/-!
# Views of an operand list

The histogram, the first operand of a kind, and the references and descriptors are read off
the same operands, and they agree.  The histogram lists each kind that occurs once, in the
order of first occurrence, with the number of its operands.  There is a first operand of
exactly those kinds.  There are as many references and descriptors as the histogram counts,
and the instruction accesses memory if it targets a space or the histogram has one of the
two.
-/

namespace GpuOperand

theorem Kind.isMemory_iff {kind : Kind} :
    kind.isMemory = true ↔ kind = .memoryReference ∨ kind = .memoryDescriptor := by
  cases kind <;> decide

namespace OperandList

/-- The contents of a kind are those of the payloads of that kind, in order. -/
theorem map_ofContent_filterMap (kind : Kind) (operands : List Operand) :
    (operands.filterMap fun operand => operand.payload.content? kind).map
        (Payload.ofContent kind) =
      (operands.map Operand.payload).filter (·.kind = kind) := by
  rw [List.map_filterMap]
  induction operands with
  | nil => rfl
  | cons operand rest ih =>
      by_cases same : operand.payload.kind = kind <;>
        simpa [Payload.map_ofContent_content?, same] using ih

theorem length_filterMap_content? (kind : Kind) (operands : List Operand) :
    (operands.filterMap fun operand => operand.payload.content? kind).length =
      operands.countP (·.kind = kind) := by
  have lengths := congrArg List.length (map_ofContent_filterMap kind operands)
  rw [List.length_map, ← List.countP_eq_length_filter, List.countP_map] at lengths
  exact lengths

/-- How many of the operands are memory references. -/
def referenceCount (operands : List Operand) : Nat :=
  operands.countP (·.isOf .memoryReference)

theorem length_filter_isMemoryReference (operands : List Operand) :
    (operands.filter Operand.isMemoryReference).length = referenceCount operands :=
  List.countP_eq_length_filter.symm

theorem length_referencesIn (operands : List Operand) :
    (referencesIn operands).length = referenceCount operands := by
  rw [referencesIn, length_filterMap_content?, referenceCount]
  apply List.countP_congr
  intro operand _
  rw [Operand.isOf, Payload.isOf_eq_decide]
  rfl

theorem length_memRefs (list : OperandList) :
    list.memRefs.length = referenceCount list.operands :=
  length_referencesIn list.operands

theorem fitsSpace_iff {list : OperandList} :
    list.fitsSpace = true ↔ referenceCount list.operands ≤ list.space.maxMemRefs := by
  rw [fitsSpace, length_memRefs, decide_eq_true_eq]

theorem count_kinds (list : OperandList) (kind : Kind) :
    list.kinds.count kind = list.operands.countP (·.kind = kind) := by
  rw [kinds, List.count_eq_countP, List.countP_map]
  rfl

theorem idxOf_kinds (list : OperandList) (kind : Kind) :
    list.kinds.idxOf kind = list.operands.findIdx (·.kind = kind) := by
  rw [kinds, List.idxOf, List.findIdx_map]
  rfl

/-- The operand stands at some position, and none before it is of its kind. -/
def IsFirst (list : OperandList) (operand : Operand) : Prop :=
  ∃ index : Nat, list.operands[index]? = some operand ∧
    ∀ earlier < index, ∀ other, list.operands[earlier]? = some other →
      other.kind ≠ operand.kind

theorem find?_eq_some_iff {list : OperandList} {kind : Kind} {operand : Operand} :
    list.find? kind = some operand ↔ operand.kind = kind ∧ list.IsFirst operand := by
  rw [find?, List.find?_eq_some_iff_getElem, beq_iff_eq]
  constructor
  · rintro ⟨rfl, index, within, rfl, before⟩
    refine ⟨rfl, index, List.getElem?_eq_getElem within, ?_⟩
    intro earlier isEarlier other found
    obtain ⟨_, rfl⟩ := List.getElem?_eq_some_iff.mp found
    simpa using before earlier isEarlier
  · rintro ⟨rfl, index, found, before⟩
    obtain ⟨within, rfl⟩ := List.getElem?_eq_some_iff.mp found
    refine ⟨rfl, index, within, rfl, ?_⟩
    intro earlier isEarlier
    have other := before earlier isEarlier _
      (List.getElem?_eq_getElem (Nat.lt_trans isEarlier within))
    simpa using other

theorem find?_eq_none_iff_kinds {list : OperandList} {kind : Kind} :
    list.find? kind = none ↔ kind ∉ list.kinds := by
  simp [find?, kinds]

theorem accessesMemory_iff {list : OperandList} :
    list.accessesMemory = true ↔
      list.space ≠ .noMemory ∨ .memoryReference ∈ list.kinds ∨
        .memoryDescriptor ∈ list.kinds := by
  rw [accessesMemory, Bool.or_eq_true, List.any_eq_true]
  have targets : (!list.space.isNone) = true ↔ list.space ≠ .noMemory := by
    simp [MemorySpace.isNone]
  rw [targets]
  apply or_congr Iff.rfl
  constructor
  · rintro ⟨kind, member, memory⟩
    rcases Kind.isMemory_iff.mp memory with rfl | rfl
    · exact Or.inl member
    · exact Or.inr member
  · rintro (member | member)
    · exact ⟨_, member, rfl⟩
    · exact ⟨_, member, rfl⟩

theorem Tallies.lookup_eq_count {histogram : List (Kind × Nat)} {seen : List Kind}
    (tallies : Tallies histogram seen) (kind : Kind) :
    (histogram.lookup kind).getD 0 = seen.count kind := by
  cases found : histogram.lookup kind with
  | some occurrences =>
      obtain ⟨earlier, later, rfl, _⟩ := List.lookup_eq_some_iff.mp found
      exact tallies.count_eq (kind, occurrences) (by simp)
  | none =>
      have absent : kind ∉ countedKinds histogram := by
        intro counted
        obtain ⟨entry, member, rfl⟩ := List.mem_map.mp counted
        simpa using List.lookup_eq_none_iff.mp found entry member
      rw [tallies.mem_countedKinds_iff] at absent
      exact (List.count_eq_zero_of_not_mem absent).symm

/-- What the views of a list have to do with its operands and with one another. -/
structure ViewsAgree (list : OperandList) : Prop where
  distinct : (list.kindHistogram.map Prod.fst).Nodup
  counts : ∀ kind occurrences, (kind, occurrences) ∈ list.kindHistogram →
    1 ≤ occurrences ∧ occurrences = list.operands.countP (·.kind = kind)
  total : (list.kindHistogram.map Prod.snd).sum = list.operands.length
  ordered : (list.kindHistogram.map Prod.fst).Pairwise fun earlier later =>
    list.operands.findIdx (·.kind = earlier) < list.operands.findIdx (·.kind = later)
  found : ∀ kind operand,
    list.find? kind = some operand ↔ operand.kind = kind ∧ list.IsFirst operand
  notFound : ∀ kind, list.find? kind = none ↔ kind ∉ list.kindHistogram.map Prod.fst
  memRefs : list.memRefs.map .memoryReference =
    (list.operands.map Operand.payload).filter (·.kind = .memoryReference)
  memDescs : list.memDescs.map .memoryDescriptor =
    (list.operands.map Operand.payload).filter (·.kind = .memoryDescriptor)
  countedMemRefs :
    list.memRefs.length = (list.kindHistogram.lookup .memoryReference).getD 0
  countedMemDescs :
    list.memDescs.length = (list.kindHistogram.lookup .memoryDescriptor).getD 0
  memory : list.accessesMemory = true ↔
    list.space ≠ .noMemory ∨ .memoryReference ∈ list.kindHistogram.map Prod.fst ∨
      .memoryDescriptor ∈ list.kindHistogram.map Prod.fst

theorem viewsAgree (list : OperandList) : list.ViewsAgree := by
  have tallies := list.tallies_kindHistogram
  have counted (kind : Kind) :
      list.operands.countP (·.kind = kind) = (list.kindHistogram.lookup kind).getD 0 := by
    rw [tallies.lookup_eq_count, count_kinds]
  constructor
  · exact tallies.nodup_countedKinds
  · intro kind occurrences member
    refine ⟨tallies.count_pos member, ?_⟩
    rw [← count_kinds]
    exact tallies.count_eq _ member
  · rw [tallies.sum_eq, kinds, List.length_map]
  · simp only [← idxOf_kinds]
    exact tallies.ordered
  · exact fun kind operand => find?_eq_some_iff
  · intro kind
    rw [find?_eq_none_iff_kinds, ← tallies.mem_countedKinds_iff]
    rfl
  · exact map_ofContent_filterMap .memoryReference list.operands
  · exact map_ofContent_filterMap .memoryDescriptor list.operands
  · rw [← counted]
    exact length_filterMap_content? .memoryReference list.operands
  · rw [← counted]
    exact length_filterMap_content? .memoryDescriptor list.operands
  · rw [accessesMemory_iff, ← tallies.mem_countedKinds_iff, ← tallies.mem_countedKinds_iff]
    rfl

/-- A kind that occurs again keeps its place. -/
example :
    let operand (payload : Payload) : Operand :=
      { text := {}, flags := {}, sizeBytes := 0, payload }
    kindHistogram
        { operands :=
            [operand (.register {}), operand (.memoryReference {}), operand (.register {}),
              operand (.predicate {})] } =
      [(.register, 2), (.memoryReference, 1), (.predicate, 1)] := by
  rfl

end OperandList

end GpuOperand

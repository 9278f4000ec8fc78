import GpuOperand.OperandList.Basic
import Mathlib.Algebra.Ring.Nat
import Mathlib.Data.List.Basic

/-!
# Counting kinds

While the operands of a list are counted, the histogram tallies the kinds seen so far: it
has an entry for each of them and for no other kind, every entry counts exactly, and the
entries stand in the order in which their kinds were first seen.
-/

namespace GpuOperand

namespace OperandList

/-- The kinds that a histogram has an entry for. -/
def countedKinds (histogram : List (Kind × Nat)) : List Kind :=
  histogram.map Prod.fst

variable {histogram : List (Kind × Nat)} {seen : List Kind}

theorem countedKinds_countKind (histogram : List (Kind × Nat)) (kind : Kind) :
    countedKinds (countKind histogram kind) =
      if kind ∈ countedKinds histogram then countedKinds histogram
      else countedKinds histogram ++ [kind] := by
  induction histogram with
  | nil => rfl
  | cons entry rest ih =>
      obtain ⟨counted, occurrences⟩ := entry
      by_cases same : counted = kind
      · simp [countedKinds, countKind, same]
      · have other : kind ≠ counted := Ne.symm same
        simp only [countedKinds] at ih ⊢
        by_cases present : kind ∈ rest.map Prod.fst <;>
          simp [countKind, same, ih, other, present]

theorem sum_countKind (histogram : List (Kind × Nat)) (kind : Kind) :
    ((countKind histogram kind).map Prod.snd).sum = (histogram.map Prod.snd).sum + 1 := by
  induction histogram with
  | nil => rfl
  | cons entry rest ih =>
      obtain ⟨counted, occurrences⟩ := entry
      by_cases same : counted = kind
      · rw [countKind, if_pos same]
        simp only [List.map_cons, List.sum_cons]
        omega
      · rw [countKind, if_neg same]
        simp only [List.map_cons, List.sum_cons, ih]
        omega

/-- Only the entry of the kind counts one more. -/
theorem count_of_mem_countKind (count : Kind → Nat) {kind : Kind}
    (exact : ∀ entry ∈ histogram, entry.2 = count entry.1)
    (distinct : (countedKinds histogram).Nodup)
    (fresh : kind ∉ countedKinds histogram → count kind = 0)
    {entry : Kind × Nat} (member : entry ∈ countKind histogram kind) :
    entry.2 = count entry.1 + if entry.1 = kind then 1 else 0 := by
  induction histogram with
  | nil =>
      obtain rfl := List.mem_singleton.mp member
      have none : count kind = 0 := fresh (List.not_mem_nil)
      simp [none]
  | cons first rest ih =>
      obtain ⟨counted, occurrences⟩ := first
      obtain ⟨firstFresh, restDistinct⟩ := List.nodup_cons.mp distinct
      have firstExact : occurrences = count counted := exact _ List.mem_cons_self
      have restExact : ∀ other ∈ rest, other.2 = count other.1 :=
        fun other later => exact other (List.mem_cons_of_mem _ later)
      by_cases same : counted = kind
      · -- The kind has its entry here, so it has none among the rest.
        subst same
        rw [countKind, if_pos rfl] at member
        rcases List.mem_cons.mp member with rfl | later
        · simp [firstExact]
        · have found : entry.1 ∈ countedKinds rest := List.mem_map_of_mem later
          have other : entry.1 ≠ counted := ne_of_mem_of_not_mem found firstFresh
          simp [restExact entry later, other]
      · rw [countKind, if_neg same] at member
        rcases List.mem_cons.mp member with rfl | later
        · simp [firstExact, same]
        · apply ih restExact restDistinct ?_ later
          intro absent
          apply fresh
          intro present
          rcases List.mem_cons.mp present with rfl | found
          · exact same rfl
          · exact absent found

/-- The histogram counts the kinds that were seen, and lists them as they came. -/
structure Tallies (histogram : List (Kind × Nat)) (seen : List Kind) : Prop where
  mem_countedKinds_iff : ∀ kind, kind ∈ countedKinds histogram ↔ kind ∈ seen
  count_eq : ∀ entry ∈ histogram, entry.2 = seen.count entry.1
  sum_eq : (histogram.map Prod.snd).sum = seen.length
  ordered : (countedKinds histogram).Pairwise fun earlier later =>
    seen.idxOf earlier < seen.idxOf later

namespace Tallies

theorem nodup_countedKinds (tallies : Tallies histogram seen) :
    (countedKinds histogram).Nodup := by
  apply tallies.ordered.imp
  rintro earlier _ before rfl
  exact Nat.lt_irrefl _ before

theorem count_pos (tallies : Tallies histogram seen) {entry : Kind × Nat}
    (member : entry ∈ histogram) : 0 < entry.2 := by
  rw [tallies.count_eq entry member, List.count_pos_iff, ← tallies.mem_countedKinds_iff]
  exact List.mem_map_of_mem member

theorem nil : Tallies [] [] where
  mem_countedKinds_iff _ := Iff.rfl
  count_eq _ member := by cases member
  sum_eq := rfl
  ordered := .nil

theorem ordered_concat (tallies : Tallies histogram seen) (kind : Kind) :
    (countedKinds histogram).Pairwise fun earlier later =>
      (seen ++ [kind]).idxOf earlier < (seen ++ [kind]).idxOf later := by
  apply tallies.ordered.imp_of_mem
  intro earlier later earlierMember laterMember before
  rw [tallies.mem_countedKinds_iff] at earlierMember laterMember
  -- Seeing one more kind moves no first occurrence.
  rw [List.idxOf_append_of_mem earlierMember, List.idxOf_append_of_mem laterMember]
  exact before

theorem countKind (tallies : Tallies histogram seen) (kind : Kind) :
    Tallies (countKind histogram kind) (seen ++ [kind]) where
  mem_countedKinds_iff other := by
    rw [countedKinds_countKind, List.mem_append, List.mem_singleton,
      ← tallies.mem_countedKinds_iff]
    split
    · constructor
      · exact Or.inl
      · rintro (member | rfl) <;> assumption
    · rw [List.mem_append, List.mem_singleton]
  count_eq entry member := by
    have fresh : kind ∉ countedKinds histogram → seen.count kind = 0 := by
      rw [tallies.mem_countedKinds_iff]
      exact List.count_eq_zero_of_not_mem
    have counted := count_of_mem_countKind seen.count tallies.count_eq
      tallies.nodup_countedKinds fresh member
    rw [counted, List.count_append, List.count_singleton]
    simp only [beq_iff_eq, @eq_comm _ kind]
  sum_eq := by rw [sum_countKind, tallies.sum_eq, List.length_append, List.length_singleton]
  ordered := by
    rw [countedKinds_countKind]
    split
    · exact tallies.ordered_concat kind
    · next fresh =>
      rw [tallies.mem_countedKinds_iff] at fresh
      refine List.pairwise_append.mpr ⟨tallies.ordered_concat kind,
        List.pairwise_singleton _ _, ?_⟩
      -- A kind that was not seen before is first seen behind all others.
      intro earlier member later isKind
      rw [tallies.mem_countedKinds_iff] at member
      rw [List.mem_singleton.mp isKind, List.idxOf_append_of_mem member,
        List.idxOf_append_of_notMem fresh]
      exact Nat.lt_add_right _ (List.idxOf_lt_length_iff.mpr member)

theorem foldl (tallies : Tallies histogram seen) (kinds : List Kind) :
    Tallies (kinds.foldl OperandList.countKind histogram) (seen ++ kinds) := by
  -- By induction on the kinds still to be counted, for all that were counted before.
  induction kinds generalizing histogram seen with
  | nil =>
      rw [List.append_nil]
      exact tallies
  | cons kind rest ih =>
      rw [List.append_cons]
      exact ih (tallies.countKind kind)

end Tallies

theorem tallies_kindHistogram (list : OperandList) :
    Tallies list.kindHistogram list.kinds :=
  Tallies.nil.foldl list.kinds

end OperandList

end GpuOperand

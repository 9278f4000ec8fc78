import GpuOperand.Proofs.Payload.Address
import GpuOperand.Proofs.Payload.Content
import GpuOperand.Proofs.Text.Quoted

/-!
# Reading summaries of payloads

Given its kind, a payload is determined by its summary and by what follows the summary,
as long as a blank comes next.  Two kinds of payload are left out: a floating-point
literal, where one text stands for every value that is not a number, and a register
whose property text could be taken for the digits in front of it or for what follows.
-/

namespace GpuOperand

open Numeral

/-- Property text as a list of suffixes, each behind a dot. -/
def IsSuffixList (property : String) : Prop :=
  property = "" ∨ property.toList.head? = some '.' ∧ ' ' ∉ property.toList

namespace Payload

/-- Whether the summary of the payload can be read back. -/
def Legible : Payload → Prop
  | float _ => False
  | register use | uniformRegister use => IsSuffixList use.property
  | _ => True

-- Property text of another shape can continue the number in front of it.
example : (register ⟨1, "0"⟩).summary = (register ⟨10, ""⟩).summary := by decide

/-- What may follow the summary of a payload: nothing, or a blank that does not begin a
descriptor. -/
structure Trails (rest : List Char) : Prop where
  blank : Stops (· != ' ') rest
  noDescriptor : ¬ [' ', 'd'] <+: rest

theorem Trails.stops {belongs : Char → Bool} {rest : List Char} (trails : Trails rest)
    (outside : belongs ' ' = false) : Stops belongs rest := by
  apply trails.blank.mono
  intro character inside
  rw [bne_iff_ne]
  rintro rfl
  rw [outside] at inside
  contradiction

end Payload

namespace IsSuffixList

theorem stops {property : String} (suffixes : IsSuffixList property)
    {rest : List Char} (trails : Payload.Trails rest) :
    Stops (isDigit 10) (property.toList ++ rest) := by
  rcases suffixes with rfl | ⟨dotted, _⟩
  · exact trails.stops (by decide)
  · obtain ⟨others, text⟩ := List.head?_eq_some_iff.mp dotted
    have dot : isDigit 10 '.' = false := by decide
    rw [text]
    exact stops_cons.mpr dot

theorem ne_blank {property : String} (suffixes : IsSuffixList property) :
    ∀ character ∈ property.toList, (character != ' ') = true := by
  intro character member
  rw [bne_iff_ne]
  rintro rfl
  rcases suffixes with rfl | ⟨_, noBlank⟩
  · exact List.not_mem_nil member
  · exact noBlank member

end IsSuffixList

namespace Payload

theorem delimited_integer :
    Delimited (fun value : UInt64 => (hexadecimal value.toNat).toList)
      fun _ rest => Trails rest := by
  intro first second firstRest secondRest firstTrails secondTrails same
  obtain ⟨values, rests⟩ := delimited_hexadecimal (firstTrails.stops (by decide))
    (secondTrails.stops (by decide)) same
  exact ⟨UInt64.toNat_inj.mp values, rests⟩

theorem delimited_registerUse (file : RegFile) :
    Delimited
      (fun use : RegisterUse => (file.label use.number ++ use.property).toList)
      fun use rest => IsSuffixList use.property ∧ Trails rest := by
  rintro ⟨firstNumber, firstProperty⟩ ⟨secondNumber, secondProperty⟩ firstRest secondRest
    ⟨firstSuffixes, firstTrails⟩ ⟨secondSuffixes, secondTrails⟩ same
  simp only [String.toList_append, List.append_assoc] at same
  obtain ⟨rfl, remaining⟩ := RegFile.delimited_label file (firstSuffixes.stops firstTrails)
    (secondSuffixes.stops secondTrails) same
  obtain ⟨properties, rests⟩ := append_inj_of_stops firstSuffixes.ne_blank
    secondSuffixes.ne_blank firstTrails.blank secondTrails.blank remaining
  obtain rfl : firstProperty = secondProperty := String.toList_inj.mp properties
  exact ⟨rfl, rests⟩

theorem delimited_predicateUse (file : RegFile) :
    Delimited (fun use : PredicateUse => (file.label use.number).toList)
      fun _ rest => Trails rest := by
  rintro ⟨first⟩ ⟨second⟩ firstRest secondRest firstTrails secondTrails same
  obtain ⟨rfl, rests⟩ := file.delimited_label (firstTrails.stops (by decide))
    (secondTrails.stops (by decide)) same
  exact ⟨rfl, rests⟩

theorem delimited_bankSummary :
    Delimited (fun bank => (bankSummary bank).toList) fun _ rest => Trails rest := by
  rintro ⟨firstBank, firstImm, firstReg⟩ ⟨secondBank, secondImm, secondReg⟩ firstRest
    secondRest firstTrails secondTrails same
  have bracket : isDigit 16 ']' = false := by decide
  have opening {rest : List Char} (trails : Trails rest) : Stops (· == '[') rest :=
    trails.stops rfl
  simp only [toList_bankSummary, List.cons_append, List.append_assoc, List.cons.injEq,
    true_and] at same
  obtain ⟨banks, closed⟩ := delimited_hexadecimal (stops_cons.mpr bracket)
    (stops_cons.mpr bracket) same
  obtain ⟨addresses, rests⟩ := delimited_bankMark (opening firstTrails)
    (opening secondTrails) (List.tail_eq_of_cons_eq closed)
  obtain rfl : firstBank = secondBank := UInt32.toNat_inj.mp banks
  cases addresses
  exact ⟨rfl, rests⟩

theorem delimited_referenceSummary :
    Delimited (fun reference => (referenceSummary reference).toList)
      fun _ rest => Trails rest := by
  have follows (descriptor : Option RegNum) {rest : List Char} (trails : Trails rest) :
      descriptor.elim (¬ [' ', 'd'] <+: rest) fun _ => Stops (isDigit 10) rest := by
    cases descriptor with
    | none => exact trails.noDescriptor
    | some number => exact trails.stops (by decide)
  rintro ⟨firstBase, firstUniform, firstOffset, firstDescriptor⟩
    ⟨secondBase, secondUniform, secondOffset, secondDescriptor⟩ firstRest secondRest
    firstTrails secondTrails same
  simp only [toList_referenceSummary, List.cons_append, List.append_assoc, List.cons.injEq,
    true_and] at same
  obtain ⟨addresses, closed⟩ := @delimited_addressText (firstBase, firstUniform, firstOffset)
    (secondBase, secondUniform, secondOffset) _ _ (closes_cons _) (closes_cons _) same
  obtain ⟨rfl, rests⟩ := delimited_descriptorMark (follows firstDescriptor firstTrails)
    (follows secondDescriptor secondTrails) (List.tail_eq_of_cons_eq closed)
  cases addresses
  exact ⟨rfl, rests⟩

theorem delimited_descriptorSummary :
    Delimited
      (fun descriptor : MemoryDescriptor => (memoryDescriptor descriptor).summary.toList)
      fun _ _ => True := by
  rintro ⟨first⟩ ⟨second⟩ firstRest secondRest _ _ same
  have bracket : isDigit 10 ']' = false := by decide
  have labels : (RegFile.label .uniform first).toList ++ ']' :: firstRest =
      (RegFile.label .uniform second).toList ++ ']' :: secondRest := by
    simpa [summary] using same
  obtain ⟨rfl, closed⟩ := RegFile.delimited_label .uniform (stops_cons.mpr bracket)
    (stops_cons.mpr bracket) labels
  exact ⟨rfl, List.tail_eq_of_cons_eq closed⟩

/-- Given the kind, a legible payload can be read back from its summary. -/
theorem delimited_ofContent (kind : Kind) :
    Delimited (fun content => (ofContent kind content).summary.toList)
      fun content rest => (ofContent kind content).Legible ∧ Trails rest := by
  cases kind with
  | integer => exact delimited_integer.mono fun _ _ => And.right
  | float =>
      intro first second firstRest secondRest firstFollows
      exact firstFollows.1.elim
  | register => exact delimited_registerUse .general
  | predicate => exact (delimited_predicateUse .predicate).mono fun _ _ => And.right
  | uniformRegister => exact delimited_registerUse .uniform
  | uniformPredicate =>
      exact (delimited_predicateUse .uniformPredicate).mono fun _ _ => And.right
  | constantBank => exact delimited_bankSummary.mono fun _ _ => And.right
  | memoryReference => exact delimited_referenceSummary.mono fun _ _ => And.right
  | generic => exact delimited_quoted.mono fun _ _ _ => trivial
  | memoryDescriptor => exact delimited_descriptorSummary.mono fun _ _ _ => trivial

theorem eq_of_summary_append {first second : Payload} {firstRest secondRest : List Char}
    (kinds : first.kind = second.kind) (firstFollows : first.Legible ∧ Trails firstRest)
    (secondFollows : second.Legible ∧ Trails secondRest)
    (same : first.summary.toList ++ firstRest = second.summary.toList ++ secondRest) :
    first = second ∧ firstRest = secondRest := by
  -- Naming the kind keeps the types of the two contents equal.
  obtain ⟨kind, ofKind⟩ : ∃ kind, second.kind = kind := ⟨_, rfl⟩
  obtain ⟨firstContent, rfl⟩ := exists_ofContent (kinds.trans ofKind)
  obtain ⟨secondContent, rfl⟩ := exists_ofContent ofKind
  obtain ⟨rfl, rests⟩ := delimited_ofContent kind firstFollows secondFollows same
  exact ⟨rfl, rests⟩

end Payload

end GpuOperand

import GpuOperand.Draft.Basic
import GpuOperand.Operand.Summary
import GpuOperand.Proofs.Payload.Summary

/-!
# Reading summaries of operands

Every part of a summary is delimited by the parts behind it.  The kind ends at the first
blank and the text at its closing quotation mark.  Whatever stands behind the payload
begins with a blank and a character that tells which part it is.  So the summary of an
operand with a legible payload determines the operand.
-/

namespace GpuOperand

open Numeral

/-- The text is empty, or begins with a blank and one of the openers. -/
def Opens (openers : List Char) (text : List Char) : Prop :=
  text = [] ∨ ∃ opener ∈ openers, [' ', opener] <+: text

namespace Opens

variable {openers text : List Char}

theorem not_begins (opens : Opens openers text) {character : Char}
    (other : character ∉ openers) : ¬ [' ', character] <+: text := by
  rintro ⟨others, rfl⟩
  rcases opens with empty | ⟨opener, member, opened⟩
  · contradiction
  · have same : opener = character := by simpa using opened
    rw [same] at member
    exact other member

theorem blank (opens : Opens openers text) : Stops (· != ' ') text := by
  rcases opens with rfl | ⟨opener, _, others, rfl⟩
  · exact stops_nil
  · exact stops_cons.mpr rfl

theorem unlessAbsent {absent : Prop} [Decidable absent] {opener : Char} {part : List Char}
    (opened : [' ', opener] <+: part) (opens : Opens openers text) :
    Opens (opener :: openers) ((if absent then [] else part) ++ text) := by
  split
  · rcases opens with empty | ⟨other, member, found⟩
    · exact Or.inl empty
    · exact Or.inr ⟨other, List.mem_cons_of_mem _ member, found⟩
  · exact Or.inr ⟨opener, List.mem_cons_self, opened.trans (List.prefix_append _ _)⟩

end Opens

namespace Flags

/-- The names of the flags that are set, separated by commas. -/
def names (flags : Flags) : List Char :=
  (",".intercalate
    ((if flags.negated then ["neg"] else []) ++
      (if flags.inverted then ["not"] else []) ++
      (if flags.absolute then ["abs"] else []))).toList

theorem toList_summary (flags : Flags) :
    flags.summary.toList = '[' :: (flags.names ++ [']']) := by
  simp [summary, names]

theorem names_injective : Function.Injective names := by
  have each : ∀ negated inverted absolute negated' inverted' absolute' : Bool,
      names ⟨negated, inverted, absolute⟩ = names ⟨negated', inverted', absolute'⟩ →
      Flags.mk negated inverted absolute = ⟨negated', inverted', absolute'⟩ := by
    decide
  exact fun first second => each _ _ _ _ _ _

theorem delimited_summary :
    Delimited (fun flags : Flags => flags.summary.toList) fun _ _ => True := by
  have inside : ∀ negated inverted absolute : Bool,
      (names ⟨negated, inverted, absolute⟩).all (· != ']') = true := by
    decide
  have delimited : Delimited names fun _ rest => Stops (· != ']') rest :=
    .of_class names_injective fun flags => List.all_eq_true.mp (inside _ _ _)
  intro first second firstRest secondRest _ _ same
  simp only [toList_summary, List.cons_append, List.append_assoc, List.nil_append] at same
  obtain ⟨flags, closed⟩ := delimited (stops_cons.mpr rfl) (stops_cons.mpr rfl)
    (List.tail_eq_of_cons_eq same)
  exact ⟨flags, List.tail_eq_of_cons_eq closed⟩

end Flags

namespace Operand

def truncatedMark (truncated : Bool) : List Char :=
  if truncated = false then [] else " (truncated)".toList

def flagsMark (flags : Flags) : List Char :=
  if flags.isEmpty = true then [] else ' ' :: flags.summary.toList

def widthMark (sizeBytes : UInt32) : List Char :=
  if sizeBytes = 0 then [] else " nbytes=".toList ++ (decimal sizeBytes.toNat).toList

theorem toList_summary (operand : Operand) :
    operand.summary.toList =
      operand.kind.name.toList ++ ' ' :: ((quoted operand.text.value).toList ++
        ' ' :: (operand.payload.summary.toList ++ (truncatedMark operand.text.truncated ++
          (flagsMark operand.flags ++ widthMark operand.sizeBytes)))) := by
  have truncated : (if operand.text.truncated then " (truncated)" else "").toList =
      truncatedMark operand.text.truncated := by
    cases operand.text.truncated <;> rfl
  have flags : (if operand.flags.isEmpty then "" else " " ++ operand.flags.summary).toList =
      flagsMark operand.flags := by
    cases empty : operand.flags.isEmpty <;> simp [flagsMark, empty]
  have width : (if operand.sizeBytes = 0 then ""
      else " nbytes=" ++ decimal operand.sizeBytes.toNat).toList =
      widthMark operand.sizeBytes := by
    by_cases zero : operand.sizeBytes = 0 <;> simp [widthMark, zero]
  simp only [summary, String.toList_append, truncated, flags, width]
  simp

section Marks

variable (truncated : Bool) (flags : Flags) (sizeBytes : UInt32)

theorem opens_widthMark : Opens ['n'] (widthMark sizeBytes) := by
  have opened : [' ', 'n'] <+: " nbytes=".toList := by decide
  rw [widthMark]
  split
  · exact Or.inl rfl
  · exact Or.inr ⟨'n', List.mem_singleton_self _, opened.trans (List.prefix_append _ _)⟩

theorem opens_flagsMark : Opens ['[', 'n'] (flagsMark flags ++ widthMark sizeBytes) := by
  have opened : [' ', '['] <+: ' ' :: flags.summary.toList := by
    rw [Flags.toList_summary]
    exact ⟨_, rfl⟩
  exact (opens_widthMark sizeBytes).unlessAbsent opened

theorem opens_truncatedMark :
    Opens ['(', '[', 'n']
      (truncatedMark truncated ++ (flagsMark flags ++ widthMark sizeBytes)) :=
  (opens_flagsMark flags sizeBytes).unlessAbsent (by decide)

end Marks

theorem delimited_truncatedMark :
    Delimited truncatedMark fun _ rest => ¬ [' ', '('] <+: rest := by
  have written : Delimited (fun _ : Bool => " (truncated)".toList)
      fun truncated rest => ¬ truncated = false ∧ ¬ [' ', '('] <+: rest := by
    rintro first second firstRest secondRest ⟨firstTrue, _⟩ ⟨secondTrue, _⟩ same
    rw [Bool.not_eq_false] at firstTrue secondTrue
    exact ⟨firstTrue.trans secondTrue.symm, List.append_cancel_left same⟩
  have unique : ∀ ⦃first second : Bool⦄, first = false → second = false →
      first = second := by
    rintro first second rfl rfl
    rfl
  apply (written.unlessAbsent (fun _ => (by decide : [' ', '('] <+: " (truncated)".toList))
    unique).mono
  intro truncated rest other
  split <;> exact other

theorem delimited_flagsMark :
    Delimited flagsMark fun _ rest => ¬ [' ', '['] <+: rest := by
  have written : Delimited (fun flags : Flags => ' ' :: flags.summary.toList)
      fun flags rest => ¬ flags.isEmpty = true ∧ ¬ [' ', '['] <+: rest := by
    intro first second firstRest secondRest _ _ same
    exact Flags.delimited_summary trivial trivial (List.tail_eq_of_cons_eq same)
  have marked : ∀ flags : Flags, [' ', '['] <+: ' ' :: flags.summary.toList := by
    intro flags
    rw [Flags.toList_summary]
    exact ⟨_, rfl⟩
  have unique : ∀ ⦃first second : Flags⦄, first.isEmpty = true → second.isEmpty = true →
      first = second := by
    rintro ⟨_, _, _⟩ ⟨_, _, _⟩ firstEmpty secondEmpty
    simp_all [Flags.isEmpty]
  apply (written.unlessAbsent marked unique).mono
  intro flags rest other
  split <;> exact other

theorem delimited_widthMark : Delimited widthMark fun _ rest => rest = [] := by
  have mark : [' ', 'n'] <+: " nbytes=".toList := by decide
  have written : Delimited
      (fun sizeBytes : UInt32 => " nbytes=".toList ++ (decimal sizeBytes.toNat).toList)
      fun sizeBytes rest => ¬ sizeBytes = 0 ∧ rest = [] := by
    rintro first second _ _ ⟨_, rfl⟩ ⟨_, rfl⟩ same
    simp only [List.append_assoc] at same
    obtain ⟨widths, rests⟩ := delimited_decimal stops_nil stops_nil
      (List.append_cancel_left same)
    exact ⟨UInt32.toNat_inj.mp widths, rests⟩
  have unique : ∀ ⦃first second : UInt32⦄, first = 0 → second = 0 → first = second := by
    rintro first second rfl rfl
    rfl
  apply (written.unlessAbsent (fun _ => mark.trans (List.prefix_append _ _)) unique).mono
  rintro sizeBytes rest rfl
  split
  · exact not_prefix_of_stops stops_nil
  · rfl

/-- No name of a kind has a blank in it. -/
theorem delimited_kind :
    Delimited (fun kind : Kind => kind.name.toList) fun _ rest => Stops (· != ' ') rest := by
  apply Kind.delimited_name.mono
  intro kind rest stops
  apply stops.mono
  intro character inside
  rw [bne_iff_ne]
  rintro rfl
  exact absurd inside (by decide)

/-- Two operands with legible payloads and the same summary are the same operand. -/
theorem eq_of_summary_eq {first second : Operand} (firstLegible : first.payload.Legible)
    (secondLegible : second.payload.Legible) (same : first.summary = second.summary) :
    first = second := by
  have trails (truncated : Bool) (flags : Flags) (sizeBytes : UInt32) :
      Payload.Trails (truncatedMark truncated ++ (flagsMark flags ++ widthMark sizeBytes)) :=
    ⟨(opens_truncatedMark truncated flags sizeBytes).blank,
      (opens_truncatedMark truncated flags sizeBytes).not_begins (by decide)⟩
  have blank (rest : List Char) : Stops (· != ' ') (' ' :: rest) := stops_cons.mpr rfl
  obtain ⟨⟨firstText, firstTruncated⟩, firstFlags, firstWidth, firstPayload⟩ := first
  obtain ⟨⟨secondText, secondTruncated⟩, secondFlags, secondWidth, secondPayload⟩ := second
  -- The parts are read from the left; each call cuts off one of them on both sides.
  have characters := congrArg String.toList same
  simp only [toList_summary] at characters
  obtain ⟨kinds, texts⟩ := delimited_kind (blank _) (blank _) characters
  obtain ⟨rfl, payloads⟩ := delimited_quoted trivial trivial (List.tail_eq_of_cons_eq texts)
  obtain ⟨rfl, truncations⟩ := Payload.eq_of_summary_append kinds
    ⟨firstLegible, trails _ _ _⟩ ⟨secondLegible, trails _ _ _⟩
    (List.tail_eq_of_cons_eq payloads)
  obtain ⟨rfl, flags⟩ := delimited_truncatedMark
    ((opens_flagsMark _ _).not_begins (by decide))
    ((opens_flagsMark _ _).not_begins (by decide)) truncations
  obtain ⟨rfl, widths⟩ := delimited_flagsMark
    ((opens_widthMark _).not_begins (by decide))
    ((opens_widthMark _).not_begins (by decide)) flags
  have ends : widthMark firstWidth ++ [] = widthMark secondWidth ++ [] := by rw [widths]
  obtain ⟨rfl, _⟩ := delimited_widthMark rfl rfl ends
  rfl

/-- A reference without a base, made at once and part by part. -/
theorem eq_of_summary_eq_leastOffset :
    let reference : MemoryReference :=
      { uniformOffset := some ⟨63, .x4⟩, immOffset := some Int32.minValue,
        descriptor := some 4 }
    let setters : List Setter :=
      [.payload (.referenceDescriptor 4), .absolute true, .text "\"\n",
        .payload (.referenceImmOffset (-2147483648)), .sizeBytes 16,
        .payload (.referenceUniformOffset 63 .x4)]
    ∃ made built,
      (ofParts { text := "\"\n", flags := { absolute := true }, sizeBytes := 16 }
        (.memoryReference reference)).outcome = .ok made ∧
      ((Draft.start .truncate).run setters).build.outcome = .ok built ∧
      made.summary =
        "MREF \"\\\"\\n\" [UR63(URZ).X4-0x80000000] desc=UR4 [abs] nbytes=16" ∧
      built.summary = made.summary ∧ built = made := by
  intro reference setters
  let operand : Operand :=
    { text := ⟨"\"\n", false⟩, flags := { absolute := true }, sizeBytes := 16
      payload := .memoryReference reference }
  have made : operand.summary =
      "MREF \"\\\"\\n\" [UR63(URZ).X4-0x80000000] desc=UR4 [abs] nbytes=16" := by
    decide
  have built : ((Draft.start .truncate).run setters).build.outcome = .ok operand := by
    decide
  exact ⟨operand, operand, rfl, built, made, rfl, eq_of_summary_eq trivial trivial rfl⟩

end Operand

end GpuOperand

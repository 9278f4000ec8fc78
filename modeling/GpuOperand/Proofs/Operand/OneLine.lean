import GpuOperand.Proofs.Operand.Summary
import GpuOperand.Proofs.Session

/-!
# Line breaks in summaries

Numerals, names and quoted texts contain no line break, and neither do the marks that
join them.  The property text of a register is the only part of a summary that is
written as it is, so it decides whether the summary stays on one line.
-/

namespace GpuOperand

/-- Without line feeds and carriage returns. -/
def OneLine (text : List Char) : Prop :=
  '\n' ∉ text ∧ '\r' ∉ text

instance (text : List Char) : Decidable (OneLine text) :=
  inferInstanceAs (Decidable (_ ∧ _))

namespace OneLine

variable {text : List Char}

@[simp]
theorem nil : OneLine [] := by
  simp [OneLine]

@[simp]
theorem cons_iff {character : Char} :
    OneLine (character :: text) ↔ (character ≠ '\n' ∧ character ≠ '\r') ∧ OneLine text := by
  simp only [OneLine, List.mem_cons, not_or, ne_eq, @eq_comm _ character]
  tauto

@[simp]
theorem append_iff {other : List Char} :
    OneLine (text ++ other) ↔ OneLine text ∧ OneLine other := by
  simp only [OneLine, List.mem_append, not_or]
  tauto

theorem of_class {belongs : Char → Bool} (lineFeed : belongs '\n' = false)
    (carriageReturn : belongs '\r' = false)
    (belong : ∀ character ∈ text, belongs character = true) : OneLine text := by
  constructor
  · intro member
    exact absurd (belong _ member) (Bool.eq_false_iff.mp lineFeed)
  · intro member
    exact absurd (belong _ member) (Bool.eq_false_iff.mp carriageReturn)

theorem of_sublist {other : List Char} (oneLine : OneLine other) (sublist : text.Sublist other) :
    OneLine text :=
  ⟨fun member => oneLine.1 (sublist.mem member), fun member => oneLine.2 (sublist.mem member)⟩

end OneLine

@[simp]
theorem oneLine_decimalDigits (number : Nat) : OneLine (Nat.toDigits 10 number) :=
  .of_class (by decide) (by decide) (Numeral.isDigit_of_mem_toDigits (by decide) number)

@[simp]
theorem oneLine_hexadecimalDigits (number : Nat) : OneLine (Nat.toDigits 16 number) :=
  .of_class (by decide) (by decide) (Numeral.isDigit_of_mem_toDigits (by decide) number)

namespace Quoted

theorem oneLine_escape (character : Char) : OneLine (escape character) := by
  rcases escape_cases character with ⟨letter, escaped, text⟩ | ⟨plain, text⟩ | ⟨_, text⟩
  · have read := ofEscapeLetter?_of_escapeLetter? escaped
    have lineFeed : letter ≠ '\n' := by
      rintro rfl
      simp [ofEscapeLetter?] at read
    have carriageReturn : letter ≠ '\r' := by
      rintro rfl
      simp [ofEscapeLetter?] at read
    simp [text, lineFeed, carriageReturn]
  · have lineFeed : character ≠ '\n' := by
      rintro rfl
      simp [escapeLetter?] at plain
    have carriageReturn : character ≠ '\r' := by
      rintro rfl
      simp [escapeLetter?] at plain
    simp [text, lineFeed, carriageReturn]
  · simp [text]

theorem oneLine_encode (text : List Char) : OneLine (encode text) := by
  induction text with
  | nil => exact .nil
  | cons character rest ih =>
      exact OneLine.append_iff.mpr ⟨oneLine_escape character, ih⟩

end Quoted

@[simp]
theorem oneLine_quoted (text : String) : OneLine (quoted text).toList := by
  simp [quoted, Quoted.oneLine_encode]

namespace RegFile

theorem oneLine_reservedMark (file : RegFile) (number : RegNum) :
    OneLine (file.reservedMark number) := by
  cases file <;> simp only [reservedMark, reservedName?] <;> split_ifs <;> decide

@[simp]
theorem oneLine_label (file : RegFile) (number : RegNum) :
    OneLine (file.label number).toList := by
  have stem : OneLine file.stem.toList := by cases file <;> decide
  simp [toList_label, stem, oneLine_reservedMark]

end RegFile

@[simp]
theorem AddressRegister.oneLine_label (register : AddressRegister) (file : RegFile) :
    OneLine (register.label file).toList := by
  have modifier : OneLine (modifierMark register.modifier) := by
    cases register.modifier <;> decide
  simp [toList_label, modifier]

namespace Double

variable {digits : List Char}

theorem oneLine_scientific (oneLine : OneLine digits) (exponent : Int) :
    OneLine (scientific digits exponent) := by
  have sign : OneLine (if exponent < 0 then ['-'] else []) := by
    split_ifs <;> decide
  rcases digits with _ | ⟨first, _ | ⟨second, rest⟩⟩ <;>
    simp_all [scientific]

theorem oneLine_positional (oneLine : OneLine digits) (place : Int) :
    OneLine (positional digits place) := by
  have zeros (count : Nat) : OneLine (List.replicate count '0') := by
    simp [OneLine]
  have front : OneLine (digits.take place.toNat) := oneLine.of_sublist (List.take_sublist _ _)
  have back : OneLine (digits.drop place.toNat) := oneLine.of_sublist (List.drop_sublist _ _)
  rw [positional]
  split_ifs <;> simp [oneLine, zeros, front, back]

theorem oneLine_decimalText (decimal : Decimal) : OneLine (decimalText decimal) := by
  have digits : OneLine decimal.significantDigits := by
    have kept : decimal.significantDigits.Sublist
        (Nat.toDigits 10 decimal.digits).reverse.reverse :=
      (List.dropWhile_sublist _).reverse
    rw [List.reverse_reverse] at kept
    exact (oneLine_decimalDigits decimal.digits).of_sublist kept
  rw [decimalText]
  split_ifs
  · exact oneLine_positional digits _
  · exact oneLine_scientific digits _

@[simp]
theorem oneLine_text (value : Double) : OneLine value.text.toList := by
  have magnitude : OneLine value.magnitudeText := by
    rw [magnitudeText]
    split_ifs
    · decide
    · decide
    · exact oneLine_decimalText _
  rw [text]
  split_ifs
  · decide
  · simp [magnitude]
  · simp [magnitude]

end Double

namespace Payload

/-- The property text of a register. -/
def property? : Payload → Option String
  | register use | uniformRegister use => some use.property
  | _ => none

@[simp]
theorem oneLine_offsetText (joined : Bool) (offset : Option Int32) :
    OneLine (offsetText joined offset) := by
  cases offset with
  | none => exact .nil
  | some offset =>
      have sign : OneLine (if offset < 0 then ['-'] else if joined then ['+'] else []) := by
        split_ifs <;> decide
      simp [offsetText, sign]

theorem oneLine_bankSummary (bank : ConstantBank) : OneLine (bankSummary bank).toList := by
  have inside : OneLine (bankOffset bank.regOffset bank.immOffset) := by
    cases bank.regOffset <;> simp [bankOffset]
  by_cases empty : bankOffset bank.regOffset bank.immOffset = []
  · simp [toList_bankSummary, bankMark, empty]
  · simp [toList_bankSummary, bankMark, empty, inside]

theorem oneLine_referenceSummary (reference : MemoryReference) :
    OneLine (referenceSummary reference).toList := by
  obtain ⟨base, uniform, offset, descriptor⟩ := reference
  have address : OneLine (addressText base uniform offset) := by
    cases base <;> cases uniform <;> simp [addressText, uniformText]
  have mark : OneLine (descriptorMark descriptor) := by
    cases descriptor <;> simp [descriptorMark]
  simp [toList_referenceSummary, address, mark]

theorem oneLine_summary_iff (payload : Payload) :
    OneLine payload.summary.toList ↔
      ∀ property ∈ payload.property?, OneLine property.toList := by
  cases payload <;>
    simp [summary, property?, oneLine_bankSummary, oneLine_referenceSummary]

end Payload

namespace Operand

/-- The summary of an operand has a line break exactly if the property text of its
register has one. -/
theorem oneLine_summary_iff_property (operand : Operand) :
    OneLine operand.summary.toList ↔
      ∀ property ∈ operand.payload.property?, OneLine property.toList := by
  have kind : OneLine operand.kind.name.toList := by
    cases operand.kind <;> decide
  have truncated : OneLine (truncatedMark operand.text.truncated) := by
    cases operand.text.truncated <;> decide
  have flags : OneLine (flagsMark operand.flags) := by
    obtain ⟨negated, inverted, absolute⟩ := operand.flags
    cases negated <;> cases inverted <;> cases absolute <;> decide
  have width : OneLine (widthMark operand.sizeBytes) := by
    rw [widthMark]
    split_ifs <;> simp
  simp [toList_summary, kind, truncated, flags, width, Payload.oneLine_summary_iff]

/-- The property text of this register is a line feed. -/
theorem not_oneLine_summary_lineFeed :
    let operand : Operand :=
      { text := {}, flags := {}, sizeBytes := 0, payload := .register ⟨1, "\n"⟩ }
    operand.Constructible ∧ operand.summary = "REG \"\" R1\n" ∧
      ¬ OneLine operand.summary.toList := by
  intro operand
  have made : operand.Constructible :=
    ⟨[.start .reject, .set 0 (.payload (.register 1 "\n")), .build 1], by decide⟩
  have summary : operand.summary = "REG \"\" R1\n" := by decide
  refine ⟨made, summary, ?_⟩
  rw [summary]
  decide

end Operand

end GpuOperand

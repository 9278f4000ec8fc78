import GpuOperand.Error
import GpuOperand.Proofs.Text.Delimited

/-!
# Reading error messages

A message begins with a label of fixed width, which tells the code of its error.  Behind it
stand names from tables, numbers, and for some errors the name of a field, which may be any
text and may look like the wording around it.  The names are read from the front and the
numbers from the end, and the field is what remains between them.  So a message determines
its error.
-/

namespace GpuOperand

open Numeral

namespace ErrorCode

theorem length_label (code : ErrorCode) : code.label.toList.length = 7 := by
  cases code <;> decide

theorem label_injective : Function.Injective label := by
  intro first second same
  cases first <;> cases second <;> first | rfl | exact absurd same (by decide)

/-- The label ends where its width is used up. -/
theorem eq_of_labelled_eq {first second : ErrorCode} {firstDetail secondDetail : String}
    (same : first.label ++ ": " ++ firstDetail = second.label ++ ": " ++ secondDetail) :
    first = second ∧ firstDetail = secondDetail := by
  have characters := congrArg String.toList same
  simp only [String.toList_append, List.append_assoc] at characters
  obtain ⟨labels, remaining⟩ := List.append_inj characters
    (by rw [length_label, length_label])
  have details := List.append_cancel_left remaining
  exact ⟨label_injective (String.toList_injective labels), String.toList_injective details⟩

end ErrorCode

/-- A field, its value, a wording and the limit of the field. -/
def measured (field : String) (value : Nat) (wording : String) (limit : Nat) : List Char :=
  field.toList ++ ("` is ".toList ++ ((decimal value).toList ++
    (wording.toList ++ (decimal limit).toList)))

/-- The field may look like the wording, but both numbers are found from the end. -/
theorem eq_of_measured_eq {wording : String}
    (ends : wording.toList.reverse.head?.map (isDigit 10) = some false)
    {firstField secondField : String} {firstValue secondValue firstLimit secondLimit : Nat}
    (same : measured firstField firstValue wording firstLimit =
      measured secondField secondValue wording secondLimit) :
    firstField = secondField ∧ firstValue = secondValue ∧ firstLimit = secondLimit := by
  have blank : "` is ".toList.reverse.head?.map (isDigit 10) = some false := by decide
  have reversed := congrArg List.reverse same
  simp only [measured, List.reverse_append, List.append_assoc] at reversed
  obtain ⟨limits, remaining⟩ := delimited_reverse_decimal (stops_append ends _)
    (stops_append ends _) reversed
  obtain ⟨values, fields⟩ := delimited_reverse_decimal (stops_append blank _)
    (stops_append blank _) (List.append_cancel_left remaining)
  have characters := List.reverse_injective (List.append_cancel_left fields)
  exact ⟨String.toList_injective characters, values, limits⟩

namespace OperandError

theorem toList_detail_outOfRange (kind : Kind) (field : String) (value max : UInt32) :
    (outOfRange kind field value max).detail.toList =
      "invalid operand: ".toList ++ (kind.name.toList ++ (" field `".toList ++
        measured field value.toNat ", allowed range is 0..=" max.toNat)) := by
  unfold detail
  simp only [measured, String.toList_append, List.append_assoc]

theorem toList_detail_kindMismatch (expected found : Kind) :
    (kindMismatch expected found).detail.toList =
      "kind mismatch: expected `".toList ++ (expected.name.toList ++
        ("`, found `".toList ++ (found.name.toList ++ "`".toList))) := by
  unfold detail
  simp only [String.toList_append, List.append_assoc]

theorem toList_detail_textTooLong (field : String) (length limit : Nat) :
    (textTooLong field length limit).detail.toList =
      "`".toList ++ measured field length " characters long, limit is " limit := by
  unfold detail
  simp only [measured, String.toList_append, List.append_assoc]

theorem eq_of_outOfRange_detail_eq {firstKind secondKind : Kind}
    {firstField secondField : String} {firstValue secondValue firstMax secondMax : UInt32}
    (same : (outOfRange firstKind firstField firstValue firstMax).detail =
      (outOfRange secondKind secondField secondValue secondMax).detail) :
    outOfRange firstKind firstField firstValue firstMax =
      outOfRange secondKind secondField secondValue secondMax := by
  have blank : " field `".toList.head?.map Kind.inName = some false := by decide
  have characters := congrArg String.toList same
  rw [toList_detail_outOfRange, toList_detail_outOfRange] at characters
  obtain ⟨rfl, remaining⟩ := Kind.delimited_name (stops_append blank _)
    (stops_append blank _) (List.append_cancel_left characters)
  obtain ⟨rfl, values, maxima⟩ := eq_of_measured_eq (by decide)
    (List.append_cancel_left remaining)
  rw [UInt32.toNat_inj.mp values, UInt32.toNat_inj.mp maxima]

theorem eq_of_kindMismatch_detail_eq {firstExpected secondExpected firstFound secondFound : Kind}
    (same : (kindMismatch firstExpected firstFound).detail =
      (kindMismatch secondExpected secondFound).detail) :
    kindMismatch firstExpected firstFound = kindMismatch secondExpected secondFound := by
  have quoteComma : "`, found `".toList.head?.map Kind.inName = some false := by decide
  have quote : "`".toList.head?.map Kind.inName = some false := by decide
  have characters := congrArg String.toList same
  rw [toList_detail_kindMismatch, toList_detail_kindMismatch] at characters
  obtain ⟨rfl, remaining⟩ := Kind.delimited_name (stops_append quoteComma _)
    (stops_append quoteComma _) (List.append_cancel_left characters)
  obtain ⟨rfl, _⟩ := Kind.delimited_name (stops_append quote []) (stops_append quote [])
    (List.append_cancel_left remaining)
  rfl

theorem eq_of_textTooLong_detail_eq {firstField secondField : String}
    {firstLength secondLength firstLimit secondLimit : Nat}
    (same : (textTooLong firstField firstLength firstLimit).detail =
      (textTooLong secondField secondLength secondLimit).detail) :
    textTooLong firstField firstLength firstLimit =
      textTooLong secondField secondLength secondLimit := by
  have characters := congrArg String.toList same
  rw [toList_detail_textTooLong, toList_detail_textTooLong] at characters
  obtain ⟨rfl, rfl, rfl⟩ := eq_of_measured_eq (by decide)
    (List.append_cancel_left characters)
  rfl

theorem detail_outOfRange_ne_missingPayload (kind : Kind) (field : String)
    (value max : UInt32) : (outOfRange kind field value max).detail ≠ missingPayload.detail := by
  intro same
  have characters := congrArg String.toList same
  have missing : missingPayload.detail.toList =
      "invalid operand: ".toList ++ "operand has no payload".toList := by decide
  rw [toList_detail_outOfRange, missing] at characters
  have remaining := List.append_cancel_left characters
  -- Names of kinds have no small letters.
  have stops : Stops Kind.inName "operand has no payload".toList :=
    stops_cons.mpr (by decide : Kind.inName 'o' = false)
  rw [← remaining] at stops
  exact Kind.not_stops_name_append kind _ stops

/-- Errors of the same code are told apart by what stands behind it. -/
theorem eq_of_code_eq_of_detail_eq {first second : OperandError}
    (codes : first.code = second.code) (details : first.detail = second.detail) :
    first = second := by
  cases first with
  | outOfRange kind field value max =>
      cases second with
      | outOfRange => exact eq_of_outOfRange_detail_eq details
      | missingPayload => exact absurd details (detail_outOfRange_ne_missingPayload _ _ _ _)
      | kindMismatch => cases codes
      | textTooLong => cases codes
  | missingPayload =>
      cases second with
      | outOfRange => exact absurd details.symm (detail_outOfRange_ne_missingPayload _ _ _ _)
      | missingPayload => rfl
      | kindMismatch => cases codes
      | textTooLong => cases codes
  | kindMismatch expected found =>
      cases second with
      | kindMismatch => exact eq_of_kindMismatch_detail_eq details
      | _ => cases codes
  | textTooLong field length limit =>
      cases second with
      | textTooLong => exact eq_of_textTooLong_detail_eq details
      | _ => cases codes

theorem message_injective : Function.Injective message := by
  intro first second same
  obtain ⟨codes, details⟩ := ErrorCode.eq_of_labelled_eq same
  exact eq_of_code_eq_of_detail_eq codes details

theorem code_ne_tooManyMemRefs (error : OperandError) : error.code ≠ .tooManyMemRefs := by
  cases error <;> rintro ⟨⟩

end OperandError

namespace OperandListError

/-- What stands behind the label where there are too many memory references. -/
def countDetail (found limit : Nat) : String :=
  "instruction has " ++ (decimal found ++ (" memory references, at most " ++
    (decimal limit ++ " allowed")))

theorem message_tooManyMemRefs (found limit : Nat) :
    (tooManyMemRefs found limit).message =
      ErrorCode.tooManyMemRefs.label ++ ": " ++ countDetail found limit := by
  have wording : ": instruction has " = ": " ++ "instruction has " := by decide
  unfold message countDetail
  rw [wording]
  simp only [String.append_assoc]

theorem eq_of_countDetail_eq {firstFound secondFound firstLimit secondLimit : Nat}
    (same : countDetail firstFound firstLimit = countDetail secondFound secondLimit) :
    firstFound = secondFound ∧ firstLimit = secondLimit := by
  have references :
      " memory references, at most ".toList.head?.map (isDigit 10) = some false := by
    decide
  have allowed : " allowed".toList.head?.map (isDigit 10) = some false := by decide
  have characters := congrArg String.toList same
  unfold countDetail at characters
  simp only [String.toList_append] at characters
  obtain ⟨found, remaining⟩ := delimited_decimal (stops_append references _)
    (stops_append references _) (List.append_cancel_left characters)
  obtain ⟨limit, _⟩ := delimited_decimal (stops_append allowed []) (stops_append allowed [])
    (List.append_cancel_left remaining)
  exact ⟨found, limit⟩

theorem message_tooManyMemRefs_ne (found limit : Nat) (cause : OperandError) :
    (tooManyMemRefs found limit).message ≠ cause.message := by
  rw [message_tooManyMemRefs]
  intro same
  obtain ⟨codes, _⟩ := ErrorCode.eq_of_labelled_eq same
  exact cause.code_ne_tooManyMemRefs codes.symm

theorem message_injective : Function.Injective message := by
  intro first second same
  cases first with
  | tooManyMemRefs found limit =>
      cases second with
      | tooManyMemRefs otherFound otherLimit =>
          rw [message_tooManyMemRefs, message_tooManyMemRefs] at same
          obtain ⟨_, details⟩ := ErrorCode.eq_of_labelled_eq same
          obtain ⟨rfl, rfl⟩ := eq_of_countDetail_eq details
          rfl
      | operand cause => exact absurd same (message_tooManyMemRefs_ne _ _ _)
  | operand cause =>
      cases second with
      | tooManyMemRefs found limit => exact absurd same.symm (message_tooManyMemRefs_ne _ _ _)
      | operand other => rw [OperandError.message_injective same]

theorem cause?_eq_some_iff {error : OperandListError} {cause : OperandError} :
    error.cause? = some cause ↔ error = .operand cause := by
  cases error <;> simp [cause?]

theorem exists_detail (error : OperandListError) :
    ∃ detail, error.message = error.code.label ++ ": " ++ detail := by
  cases error with
  | tooManyMemRefs found limit => exact ⟨_, message_tooManyMemRefs found limit⟩
  | operand cause => exact ⟨cause.detail, rfl⟩

end OperandListError

/-- No two errors have the same message, be they about one operand or about those of an
instruction.  An operand that cannot be built passes its message and its code on to the
instruction, and is the cause of that error and of no other.  Every message begins with the
label of its code. -/
theorem errors_identified_by_message :
    (∀ first second : OperandError, first.message = second.message ↔ first = second) ∧
      (∀ first second : OperandListError, first.message = second.message ↔ first = second) ∧
      (∀ cause : OperandError,
        (OperandListError.operand cause).message = cause.message ∧
          (OperandListError.operand cause).code = cause.code ∧
          ∀ error : OperandListError, error.cause? = some cause ↔ error = .operand cause) ∧
      (∀ error : OperandError, ∃ detail,
        error.message = error.code.label ++ ": " ++ detail) ∧
      ∀ error : OperandListError, ∃ detail,
        error.message = error.code.label ++ ": " ++ detail := by
  refine ⟨fun _ _ => OperandError.message_injective.eq_iff,
    fun _ _ => OperandListError.message_injective.eq_iff, ?_, ?_,
    OperandListError.exists_detail⟩
  · intro cause
    exact ⟨rfl, rfl, fun error => OperandListError.cause?_eq_some_iff⟩
  · intro error
    exact ⟨error.detail, rfl⟩

/-- A field that imitates the wording around it is still told apart from the wording. -/
example :
    (OperandError.outOfRange .register "num` is 1, allowed range is 0..=2" 3 4).message =
        "OPD1000: invalid operand: REG field `num` is 1, allowed range is 0..=2` is 3, " ++
          "allowed range is 0..=4" ∧
      (OperandError.outOfRange .register "num" 1 2).message =
        "OPD1000: invalid operand: REG field `num` is 1, allowed range is 0..=2" := by
  decide

end GpuOperand

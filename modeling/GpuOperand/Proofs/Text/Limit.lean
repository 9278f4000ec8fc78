import GpuOperand.Proofs.Text.Offset

/-!
# Texts within the limit

A text that is taken over keeps its longest legal beginning, and is marked as
cut exactly when something was left of it.  Whether it is taken over at all is
the only thing that the policy decides.  Taking over a beginning again changes
nothing.
-/

namespace GpuOperand

/-- Whether a policy takes over a text, be it as a whole or cut. -/
def TextPolicy.Admits (policy : TextPolicy) (source : String) : Prop :=
  source.length ≤ maxChars ∨ policy = .truncate

theorem checkLength_of_fits {text : String} (fits : text.length ≤ maxChars)
    (field : String) : checkLength field text = .ok () :=
  if_pos fits

theorem checkLength_of_long {text : String} (long : maxChars < text.length)
    (field : String) :
    checkLength field text = .error (.textTooLong field text.length maxChars) :=
  if_neg (Nat.not_le.mpr long)

namespace BoundedText

/-- The longest legal beginning of a text. -/
def beginning (source : String) : String :=
  String.ofList (source.toList.take maxChars)

/-- What a text becomes when it is taken over. -/
def ofSource (source : String) : BoundedText :=
  ⟨beginning source, decide (maxChars < source.length)⟩

def mark (text : BoundedText) (truncated : Bool) : BoundedText :=
  { text with truncated := text.truncated || truncated }

/-- No character beyond the limit, and none missing up to it where characters
were cut. -/
structure WithinLimit (text : BoundedText) : Prop where
  length_le : text.value.length ≤ maxChars
  length_of_truncated : text.truncated = true → text.value.length = maxChars

@[simp]
theorem length_beginning (source : String) :
    (beginning source).length = min maxChars source.length := by
  rw [beginning, String.length_ofList, List.length_take, String.length_toList]

theorem length_beginning_le (source : String) :
    (beginning source).length ≤ maxChars := by
  rw [length_beginning]
  exact Nat.min_le_left _ _

theorem length_beginning_of_long {source : String} (long : maxChars < source.length) :
    (beginning source).length = maxChars := by
  rw [length_beginning]
  exact Nat.min_eq_left (Nat.le_of_lt long)

theorem beginning_eq_self {source : String} (fits : source.length ≤ maxChars) :
    beginning source = source := by
  have whole : source.toList.take maxChars = source.toList := by
    apply List.take_of_length_le
    rw [String.length_toList]
    exact fits
  rw [beginning, whole, String.ofList_toList]

theorem ofSource_of_fits {source : String} (fits : source.length ≤ maxChars) :
    ofSource source = ⟨source, false⟩ := by
  have notLong : ¬ maxChars < source.length := Nat.not_lt.mpr fits
  simp [ofSource, beginning_eq_self fits, notLong]

theorem ofSource_of_long {source : String} (long : maxChars < source.length) :
    ofSource source = ⟨beginning source, true⟩ := by
  simp [ofSource, long]

theorem ofSource_ofList (characters : List Char) :
    ofSource (String.ofList characters) =
      ⟨String.ofList (characters.take maxChars), decide (maxChars < characters.length)⟩ := by
  rw [ofSource, beginning, String.toList_ofList, String.length_ofList]

/-- Taking over a beginning forgets that anything was cut; the mark brings it
back. -/
theorem ofSource_beginning_mark (source : String) (truncated : Bool) :
    (ofSource (beginning source)).mark ((ofSource source).mark truncated).truncated =
      (ofSource source).mark truncated := by
  rw [ofSource_of_fits (length_beginning_le source)]
  simp [mark, ofSource]

/-- Some of a text that is too long comes behind its longest legal beginning. -/
theorem exists_beginning_append {source : String} (long : maxChars < source.length) :
    ∃ rest, rest ≠ "" ∧ source = beginning source ++ rest := by
  refine ⟨String.ofList (source.toList.drop maxChars), ?_, ?_⟩
  · intro nothing
    have characters := congrArg String.length nothing
    rw [String.length_ofList, List.length_drop, String.length_toList,
      String.length_empty] at characters
    omega
  · rw [beginning, ← String.ofList_append, List.take_append_drop, String.ofList_toList]

theorem cut_of_long {source : String} (long : maxChars < source.length) :
    cut source = beginning source := by
  obtain ⟨rest, remains, split⟩ := exists_beginning_append long
  calc cut source = cut (beginning source ++ rest) := congrArg cut split
    _ = beginning source := cut_append (length_beginning_of_long long) remains

theorem ofString_of_fits {source : String} (fits : source.length ≤ maxChars)
    (policy : TextPolicy) :
    ofString source policy = .ok ⟨source, false⟩ := by
  simp [ofString, checkLength_of_fits fits]

theorem ofString_reject_of_long {source : String} (long : maxChars < source.length) :
    ofString source .reject = .fail (.textTooLong "text" source.length maxChars) := by
  simp [ofString, checkLength_of_long long]

theorem ofString_truncate_of_long {source : String} (long : maxChars < source.length) :
    ofString source .truncate =
      ⟨.ok ⟨beginning source, true⟩,
        [.textTruncated (.textTooLong "text" source.length maxChars)]⟩ := by
  simp [ofString, checkLength_of_long long, cut_of_long long, Logged.andNote, Logged.ok]

/-- The policy decides whether a text is taken over, never what it becomes. -/
theorem outcome_ofString_eq_ok_iff {source : String} {policy : TextPolicy}
    {text : BoundedText} :
    (ofString source policy).outcome = .ok text ↔
      policy.Admits source ∧ text = ofSource source := by
  rcases Nat.lt_or_ge maxChars source.length with long | fits
  · rw [ofSource_of_long long]
    cases policy with
    | reject => simp [ofString_reject_of_long long, Logged.fail, TextPolicy.Admits,
        Nat.not_le.mpr long]
    | truncate => simp [ofString_truncate_of_long long, TextPolicy.Admits, eq_comm]
  · rw [ofString_of_fits fits, ofSource_of_fits fits]
    simp [Logged.ok, TextPolicy.Admits, fits, eq_comm]

theorem outcome_ofString_of_not_admits {source : String} {policy : TextPolicy}
    (refused : ¬ policy.Admits source) :
    (ofString source policy).outcome =
      .error (.textTooLong "text" source.length maxChars) := by
  have long : maxChars < source.length :=
    Nat.not_le.mp fun fits => refused (Or.inl fits)
  cases policy with
  | reject => rw [ofString_reject_of_long long, Logged.fail]
  | truncate => exact absurd (Or.inr rfl) refused

theorem withinLimit_ofSource (source : String) : (ofSource source).WithinLimit where
  length_le := length_beginning_le source
  length_of_truncated truncated := by
    have long : maxChars < source.length := by simpa [ofSource] using truncated
    exact length_beginning_of_long long

end BoundedText

end GpuOperand

import GpuOperand.Proofs.Operand.WellFormed

/-!
# Runs of setters

A draft holds a payload in the making and six fields beside it.  A setter writes
one of the fields or edits the payload, and it leaves everything else alone.  So
a run of setters leaves in each field the last value written to it, and the
payload depends on the edits of the run only.  What a draft builds is then read
off its fields, its edited payload and the text that it takes over.
-/

namespace Except

variable {Error Value Result : Type}

theorem bind_eq_ok_iff {outcome : Except Error Value}
    {step : Value → Except Error Result} {result : Result} :
    outcome.bind step = .ok result ↔
      ∃ value, outcome = .ok value ∧ step value = .ok result := by
  cases outcome <;> simp [Except.bind]

theorem map_eq_ok_iff {outcome : Except Error Value} {transform : Value → Result}
    {result : Result} :
    outcome.map transform = .ok result ↔
      ∃ value, outcome = .ok value ∧ transform value = result := by
  cases outcome <;> simp [Except.map]

theorem bind_eq_error_iff {outcome : Except Error Value}
    {step : Value → Except Error Result} {cause : Error} :
    outcome.bind step = .error cause ↔
      outcome = .error cause ∨ ∃ value, outcome = .ok value ∧ step value = .error cause := by
  cases outcome <;> simp [Except.bind]

theorem map_eq_error_iff {outcome : Except Error Value} {transform : Value → Result}
    {cause : Error} :
    outcome.map transform = .error cause ↔ outcome = .error cause := by
  cases outcome <;> simp [Except.map]

theorem toOption_eq_some_iff {outcome : Except Error Value} {value : Value} :
    outcome.toOption = some value ↔ outcome = .ok value := by
  cases outcome <;> simp [Except.toOption]

end Except

namespace GpuOperand

namespace EditResult

/-- Edit what earlier edits left behind.  The first failure is kept. -/
def edit (result : EditResult) (change : PayloadEdit) : EditResult :=
  let next := change.apply result.pending
  { pending := next.pending, failure := result.failure.or next.failure }

def editAll (result : EditResult) (changes : List PayloadEdit) : EditResult :=
  changes.foldl edit result

@[simp]
theorem editAll_nil (result : EditResult) : result.editAll [] = result :=
  rfl

@[simp]
theorem editAll_cons (result : EditResult) (change : PayloadEdit)
    (changes : List PayloadEdit) :
    result.editAll (change :: changes) = (result.edit change).editAll changes :=
  rfl

theorem editAll_append (result : EditResult) (first second : List PayloadEdit) :
    result.editAll (first ++ second) = (result.editAll first).editAll second :=
  List.foldl_append

/-- The payload that the edits have made, or why there is none. -/
def payload : EditResult → Except OperandError Payload
  | ⟨_, some failure⟩ => .error failure
  | ⟨none, none⟩ => .error .missingPayload
  | ⟨some payload, none⟩ => .ok payload

theorem payload_eq_ok_iff {result : EditResult} {payload : Payload} :
    result.payload = .ok payload ↔ result = { pending := some payload } := by
  obtain ⟨pending, failure⟩ := result
  cases failure <;> cases pending <;> simp [EditResult.payload]

theorem payload_eq_error_iff {result : EditResult} {error : OperandError} :
    result.payload = .error error ↔
      result.failure = some error ∨
        result.failure = none ∧ result.pending = none ∧ error = .missingPayload := by
  obtain ⟨pending, failure⟩ := result
  cases failure <;> cases pending <;> simp [EditResult.payload, eq_comm]

end EditResult

attribute [ext] Flags Header

namespace Draft

/-- The fields of a draft beside its payload. -/
inductive Field where
  | policy
  | text
  | negated
  | inverted
  | absolute
  | sizeBytes
  deriving DecidableEq

abbrev Field.Value : Field → Type
  | policy => TextPolicy
  | text => String
  | negated | inverted | absolute => Bool
  | sizeBytes => UInt32

def read (draft : Draft) : (field : Field) → field.Value
  | .policy => draft.policy
  | .text => draft.header.text
  | .negated => draft.header.flags.negated
  | .inverted => draft.header.flags.inverted
  | .absolute => draft.header.flags.absolute
  | .sizeBytes => draft.header.sizeBytes

/-- The pending payload together with the failure that is kept. -/
def edited (draft : Draft) : EditResult :=
  { pending := draft.pending, failure := draft.failure }

/-- The text that the operand of a draft would get. -/
def takenText (draft : Draft) : Except OperandError BoundedText :=
  (BoundedText.ofString draft.header.text draft.policy).outcome.map
    (BoundedText.mark · draft.textTruncated)

end Draft

namespace Setter

/-- What a setter writes to a field, if it writes to that field. -/
def value? (field : Draft.Field) (setter : Setter) : Option field.Value :=
  match field, setter with
  | .policy, policy value => some value
  | .text, text value => some value
  | .negated, negated value => some value
  | .inverted, inverted value => some value
  | .absolute, absolute value => some value
  | .sizeBytes, sizeBytes value => some value
  | _, _ => none

def edit? : Setter → Option PayloadEdit
  | payload change => some change
  | _ => none

end Setter

namespace Draft

theorem flags_eq_of_read_eq {first second : Draft}
    (negated : first.read .negated = second.read .negated)
    (inverted : first.read .inverted = second.read .inverted)
    (absolute : first.read .absolute = second.read .absolute) :
    first.header.flags = second.header.flags :=
  Flags.ext negated inverted absolute

theorem header_eq_of_read_eq {first second : Draft}
    (same : ∀ field, first.read field = second.read field) :
    first.header = second.header ∧ first.policy = second.policy :=
  have flags := flags_eq_of_read_eq (same .negated) (same .inverted) (same .absolute)
  ⟨Header.ext (same .text) flags (same .sizeBytes), same .policy⟩

theorem read_set (draft : Draft) (setter : Setter) (field : Field) :
    (draft.set setter).read field = (setter.value? field).getD (draft.read field) := by
  cases setter <;> cases field <;> rfl

/-- Only a new text makes a draft forget that its text was cut. -/
theorem textTruncated_set (draft : Draft) (setter : Setter) :
    (draft.set setter).textTruncated =
      (draft.textTruncated && (setter.value? .text).isNone) := by
  cases setter <;> simp [set, Setter.value?, mapFlags, edit]

theorem edited_set (draft : Draft) (setter : Setter) :
    (draft.set setter).edited = draft.edited.editAll setter.edit?.toList := by
  cases setter <;> rfl

@[simp]
theorem run_nil (draft : Draft) : draft.run [] = draft :=
  rfl

@[simp]
theorem run_cons (draft : Draft) (setter : Setter) (rest : List Setter) :
    draft.run (setter :: rest) = (draft.set setter).run rest :=
  rfl

theorem run_concat (draft : Draft) (setters : List Setter) (setter : Setter) :
    draft.run (setters ++ [setter]) = (draft.run setters).set setter := by
  simp [run]

theorem run_append (draft : Draft) (first second : List Setter) :
    draft.run (first ++ second) = (draft.run first).run second :=
  List.foldl_append

theorem getLastD_filterMap_cons {Element Value : Type} (value? : Element → Option Value)
    (element : Element) (rest : List Element) (first : Value) :
    ((element :: rest).filterMap value?).getLastD first =
      (rest.filterMap value?).getLastD ((value? element).getD first) := by
  rw [List.filterMap_cons]
  cases value? element with
  | none => rfl
  | some value => exact List.getLastD_cons

/-- A run leaves in a field the last value written to it. -/
theorem read_run (draft : Draft) (setters : List Setter) (field : Field) :
    (draft.run setters).read field =
      (setters.filterMap (Setter.value? field)).getLastD (draft.read field) := by
  induction setters generalizing draft with
  | nil => rfl
  | cons setter rest ih =>
      rw [run_cons, ih, read_set, getLastD_filterMap_cons]

theorem textTruncated_run (draft : Draft) (setters : List Setter) :
    (draft.run setters).textTruncated =
      (draft.textTruncated && (setters.filterMap (Setter.value? .text)).isEmpty) := by
  induction setters generalizing draft with
  | nil => simp
  | cons setter rest ih =>
      rw [run_cons, ih, textTruncated_set, List.filterMap_cons]
      cases setter.value? .text <;> simp

/-- The edits of a run decide what becomes of the payload. -/
theorem edited_run (draft : Draft) (setters : List Setter) :
    (draft.run setters).edited =
      draft.edited.editAll (setters.filterMap Setter.edit?) := by
  induction setters generalizing draft with
  | nil => rfl
  | cons setter rest ih =>
      rw [run_cons, ih, edited_set, List.filterMap_cons]
      cases setter.edit? <;> rfl

theorem build_of_failure {draft : Draft} {failure : OperandError}
    (kept : draft.failure = some failure) :
    draft.build = .fail failure := by
  simp [build, kept]

theorem build_of_edited {draft : Draft} {payload : Payload}
    (made : draft.edited = { pending := some payload }) :
    draft.build =
      (Operand.ofParts draft.header payload draft.policy).map
        (Operand.markTruncated · draft.textTruncated) := by
  obtain ⟨pending, failure⟩ := EditResult.mk.inj made
  simp [build, pending, failure]

/-- A draft fails for its payload first: for the failure that is kept, for having
none, or for one that violates a limit.  Only then does its text matter. -/
theorem outcome_build (draft : Draft) :
    draft.build.outcome =
      draft.edited.payload.bind fun payload =>
        payload.validate.bind fun _ =>
          draft.takenText.map fun text =>
            { text, flags := draft.header.flags, sizeBytes := draft.header.sizeBytes,
              payload } := by
  obtain ⟨header, textTruncated, pending, policy, failure⟩ := draft
  cases failure with
  | some failure => rfl
  | none =>
      cases pending with
      | none => rfl
      | some payload =>
          cases validated : payload.validate with
          | error violation =>
              simp [build, edited, EditResult.payload, Except.bind, validated,
                Operand.ofParts_of_violation validated]
              rfl
          | ok =>
              simp only [build, edited, EditResult.payload, Except.bind, takenText,
                validated, Operand.ofParts_of_valid validated, Logged.map]
              cases (BoundedText.ofString header.text policy).outcome <;> rfl

theorem takenText_set {setter : Setter} (keepsPolicy : setter.value? .policy = none)
    (draft : Draft) :
    (draft.set setter).takenText =
      match setter.value? .text with
      | some text => (BoundedText.ofString text draft.policy).outcome
      | none => draft.takenText := by
  cases setter with
  | policy => simp [Setter.value?] at keepsPolicy
  | text text =>
      simp only [set, takenText, Setter.value?]
      cases (BoundedText.ofString text draft.policy).outcome <;>
        simp [Except.map, BoundedText.mark]
  | _ => rfl

theorem takenText_eq_ok_iff {draft : Draft} {text : BoundedText} :
    draft.takenText = .ok text ↔
      draft.policy.Admits draft.header.text ∧
        text = (BoundedText.ofSource draft.header.text).mark draft.textTruncated := by
  rw [takenText, Except.map_eq_ok_iff]
  constructor
  · rintro ⟨taken, outcome, rfl⟩
    obtain ⟨admits, rfl⟩ := BoundedText.outcome_ofString_eq_ok_iff.mp outcome
    exact ⟨admits, rfl⟩
  · rintro ⟨admits, rfl⟩
    exact ⟨_, BoundedText.outcome_ofString_eq_ok_iff.mpr ⟨admits, rfl⟩, rfl⟩

theorem takenText_eq_error_iff {draft : Draft} {error : OperandError} :
    draft.takenText = .error error ↔
      draft.policy = .reject ∧ maxChars < draft.header.text.length ∧
        error = .textTooLong "text" draft.header.text.length maxChars := by
  rw [takenText, Except.map_eq_error_iff]
  rcases Nat.lt_or_ge maxChars draft.header.text.length with long | fits
  · cases policy : draft.policy with
    | reject =>
        rw [BoundedText.ofString_reject_of_long long]
        simp [Logged.fail, long, eq_comm]
    | truncate => simp [BoundedText.ofString_truncate_of_long long]
  · rw [BoundedText.ofString_of_fits fits]
    simp [Logged.ok, Nat.not_lt.mpr fits]

theorem outcome_build_eq_ok_iff {draft : Draft} {operand : Operand} :
    draft.build.outcome = .ok operand ↔
      draft.edited = { pending := some operand.payload } ∧
        operand.payload.validate = .ok () ∧
        draft.takenText = .ok operand.text ∧
        operand.flags = draft.header.flags ∧
        operand.sizeBytes = draft.header.sizeBytes := by
  rw [outcome_build]
  simp only [Except.bind_eq_ok_iff, Except.map_eq_ok_iff, EditResult.payload_eq_ok_iff]
  constructor
  · rintro ⟨payload, made, ⟨⟩, valid, text, taken, rfl⟩
    exact ⟨made, valid, taken, rfl, rfl⟩
  · rintro ⟨made, valid, taken, flags, width⟩
    refine ⟨operand.payload, made, (), valid, operand.text, taken, ?_⟩
    rw [← flags, ← width]

end Draft

end GpuOperand

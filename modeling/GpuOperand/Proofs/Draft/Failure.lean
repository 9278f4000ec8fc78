import GpuOperand.Proofs.Draft.Soundness

/-!
# Failures of drafts

The first setter that fails decides what a draft reports, whatever is set later.  A draft
none of whose setters failed is refused for what no setter looks at: that there is no payload,
or that a buffer or the text is too long.
-/

namespace GpuOperand

/-- A failure comes without any notice. -/
def Logged.FailsSilently {Error Value : Type} (logged : Logged Error Value) : Prop :=
  ∀ error, logged.outcome = .error error → logged = .fail error

theorem Logged.FailsSilently.map {Error Value Result : Type} {logged : Logged Error Value}
    (silent : logged.FailsSilently) (transform : Value → Result) :
    (logged.map transform).FailsSilently := by
  intro error refused
  have failed : logged.outcome = .error error := Except.map_eq_error_iff.mp refused
  rw [silent error failed, Logged.map_fail]

theorem Logged.failsSilently_fail {Error Value : Type} (error : Error) :
    (fail error : Logged Error Value).FailsSilently := by
  rintro _ ⟨⟩
  rfl

/-- The only notice about a text is that it was cut, which is no failure. -/
theorem BoundedText.failsSilently_ofString (source : String) (policy : TextPolicy) :
    (ofString source policy).FailsSilently := by
  rcases Nat.lt_or_ge maxChars source.length with long | fits
  · cases policy with
    | reject =>
        rw [ofString_reject_of_long long]
        exact Logged.failsSilently_fail _
    | truncate =>
        rw [ofString_truncate_of_long long]
        rintro _ ⟨⟩
  · rw [ofString_of_fits fits]
    rintro _ ⟨⟩

theorem Operand.failsSilently_ofParts (header : Header) (payload : Payload)
    (policy : TextPolicy) : (ofParts header payload policy).FailsSilently := by
  cases validated : payload.validate with
  | error violation =>
      rw [ofParts_of_violation validated]
      exact Logged.failsSilently_fail _
  | ok =>
      rw [ofParts_of_valid validated]
      exact (BoundedText.failsSilently_ofString _ _).map _

namespace Draft

/-- The error of the first setter of a run that fails, each on the draft that the
setters before it leave behind. -/
def firstFault? (draft : Draft) : List Setter → Option OperandError
  | [] => none
  | setter :: rest => (setter.fault? draft).or ((draft.set setter).firstFault? rest)

/-- The failure that a run keeps is the first one. -/
theorem failure_run (draft : Draft) (setters : List Setter) :
    (draft.run setters).failure = draft.failure.or (draft.firstFault? setters) := by
  induction setters generalizing draft with
  | nil => exact (Option.or_none).symm
  | cons setter rest ih =>
      rw [run_cons, ih, failure_set, firstFault?, Option.or_assoc]

theorem failsSilently_build (draft : Draft) : draft.build.FailsSilently := by
  unfold build
  split
  · exact Logged.failsSilently_fail _
  · exact Logged.failsSilently_fail _
  · exact (Operand.failsSilently_ofParts _ _ _).map _

/-- A run of setters on a draft without a failure: the first setter that fails decides
what is reported, also after further setters.  If no setter fails, building fails for a
missing payload, a long buffer or a long text, in this order, and for nothing else.
Nothing is logged in either case. -/
theorem build_run_of_firstFault {draft : Draft} (constructible : draft.Constructible)
    (unfailed : draft.failure = none) (setters : List Setter) :
    (∀ fault, draft.firstFault? setters = some fault →
        ∀ further, (draft.run (setters ++ further)).build = .fail fault) ∧
      (draft.firstFault? setters = none →
        (∀ error, (draft.run setters).build.outcome = .error error ↔
          (draft.run setters).RefusedFor error) ∧
        (draft.run setters).build.FailsSilently) := by
  constructor
  · intro fault first further
    have kept : (draft.run (setters ++ further)).failure = some fault := by
      rw [run_append, failure_run, failure_run, unfailed, first]
      rfl
    exact build_of_failure kept
  · intro faultless
    have stillUnfailed : (draft.run setters).failure = none := by
      rw [failure_run, unfailed, faultless]
      rfl
    have exist := (constructible.run setters).numbersExist
    exact ⟨fun _ => outcome_build_eq_error_iff stillUnfailed exist, failsSilently_build _⟩

/-- A number above its file fails and leaves an empty reference pending, so the offset
after it fails too; the first of these errors stays when a legal payload follows.  Without
a failing setter, a property that is too long is refused before the text beside it would be
cut, and a draft that nothing is wrong with is built. -/
theorem build_run_of_firstFault_eachOutcome :
    let draft := start .truncate
    let failing : List Setter :=
      [.payload (.constantBank 3), .payload (.referenceBase 300 .plain),
        .payload (.bankImmOffset 16)]
    let long := String.ofList (List.replicate 257 'X')
    let refused : List Setter := [.text long, .payload (.uniformRegister 63 long)]
    let building : List Setter :=
      [.payload (.uniformRegister 63 ".X4"), .text "URZ.X4", .sizeBytes 4]
    draft.Constructible ∧ draft.failure = none ∧
      draft.firstFault? failing = some (.outOfRange .memoryReference "ra_num" 300 255) ∧
      (draft.run (failing ++ [.payload (.integer 7)])).build =
        .fail (.outOfRange .memoryReference "ra_num" 300 255) ∧
      draft.firstFault? refused = none ∧
      (draft.run refused).build = .fail (.textTooLong "prop" 257 256) ∧
      draft.firstFault? building = none ∧
      (draft.run building).build =
        .ok { text := ⟨"URZ.X4", false⟩, flags := {}, sizeBytes := 4
              payload := .uniformRegister ⟨63, ".X4"⟩ } ∧
      ∀ error, ¬ (draft.run building).RefusedFor error := by
  intro draft failing long refused building
  have constructible : draft.Constructible := ⟨[.start .truncate], List.mem_singleton_self _⟩
  have first : draft.firstFault? failing =
      some (.outOfRange .memoryReference "ra_num" 300 255) := by decide
  have length : long.length = 257 := by
    rw [String.length_ofList, List.length_replicate]
  have exceeds : maxChars < long.length := by
    rw [length]
    decide
  have reason : (draft.run refused).RefusedFor (.textTooLong "prop" long.length 256) :=
    .longBuffer (.uniformRegister ⟨63, long⟩) "prop" long rfl rfl exceeds
  rw [length] at reason
  have built : ((start .truncate).run
      [.payload (.uniformRegister 63 ".X4"), .text "URZ.X4", .sizeBytes 4]).build =
        .ok { text := ⟨"URZ.X4", false⟩, flags := {}, sizeBytes := 4
              payload := .uniformRegister ⟨63, ".X4"⟩ } := rfl
  have faultless : draft.firstFault? refused = none := rfl
  have refusedLaw := (build_run_of_firstFault constructible rfl refused).2 faultless
  have refusal := refusedLaw.2 _ ((refusedLaw.1 _).mpr reason)
  have harmless : draft.firstFault? building = none := rfl
  have builtLaw := (build_run_of_firstFault constructible rfl building).2 harmless
  refine ⟨constructible, rfl, first,
    (build_run_of_firstFault constructible rfl failing).1 _ first _, faultless, refusal,
    harmless, built, ?_⟩
  intro error refusal
  have failed := (builtLaw.1 error).mpr refusal
  cases (congrArg Logged.outcome built).symm.trans failed

end Draft

end GpuOperand

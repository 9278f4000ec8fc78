import GpuOperand.Proofs.Operand.Lineage

/-!
# Sessions

A session makes operands and drafts, one operation after another, and whatever
was made before can be used again.  Operations that fail, or that name something
that was never made, make nothing.  A property of drafts and operands that every
way of making one respects holds of all that a session makes.  In this way the
operands of sessions turn out to be the well-formed ones, and those at the end of
a lineage.
-/

namespace GpuOperand

/-- One step of a session.  Drafts and operands are named by the position at which
they were made. -/
inductive Operation where
  | make (header : Header) (payload : Payload) (policy : TextPolicy)
  | makeOfKind (kind : Kind) (header : Header) (payload : Payload)
  | start (policy : TextPolicy)
  | set (draft : Nat) (setter : Setter)
  | build (draft : Nat)
  | reopen (operand : Nat)

/-- All that was made so far.  Setting a field makes another draft, and the draft
without that field can still be used. -/
structure Session where
  drafts : List Draft := []
  operands : List Operand := []

namespace Session

def addDraft (session : Session) (draft : Option Draft) : Session :=
  { session with drafts := session.drafts ++ draft.toList }

def addOperand (session : Session) (operand : Option Operand) : Session :=
  { session with operands := session.operands ++ operand.toList }

def perform (session : Session) : Operation → Session
  | .make header payload policy =>
      session.addOperand (Operand.ofParts header payload policy).outcome.toOption
  | .makeOfKind kind header payload =>
      session.addOperand (Operand.ofKind kind header payload).outcome.toOption
  | .start policy => session.addDraft (some (.start policy))
  | .set position setter => session.addDraft (session.drafts[position]?.map (·.set setter))
  | .build position =>
      session.addOperand (session.drafts[position]?.bind (·.build.outcome.toOption))
  | .reopen position => session.addDraft (session.operands[position]?.map Operand.toDraft)

def run (operations : List Operation) : Session :=
  operations.foldl perform {}

theorem run_concat (operations : List Operation) (operation : Operation) :
    run (operations ++ [operation]) = (run operations).perform operation := by
  rw [run, List.foldl_append]
  rfl

/-- A property of drafts and one of operands that every way of making a draft or an
operand respects. -/
structure Respected (onDraft : Draft → Prop) (onOperand : Operand → Prop) : Prop where
  start : ∀ policy, onDraft (.start policy)
  set : ∀ draft setter, onDraft draft → onDraft (draft.set setter)
  reopen : ∀ operand, onOperand operand → onDraft operand.toDraft
  make : ∀ header payload policy operand,
    (Operand.ofParts header payload policy).outcome = .ok operand → onOperand operand
  makeOfKind : ∀ kind header payload operand,
    (Operand.ofKind kind header payload).outcome = .ok operand → onOperand operand
  build : ∀ draft operand,
    onDraft draft → draft.build.outcome = .ok operand → onOperand operand

structure Holds (onDraft : Draft → Prop) (onOperand : Operand → Prop)
    (session : Session) : Prop where
  drafts : ∀ draft ∈ session.drafts, onDraft draft
  operands : ∀ operand ∈ session.operands, onOperand operand

variable {onDraft : Draft → Prop} {onOperand : Operand → Prop} {session : Session}

theorem Holds.addDraft (holds : session.Holds onDraft onOperand) {draft : Option Draft}
    (new : ∀ made ∈ draft, onDraft made) :
    (session.addDraft draft).Holds onDraft onOperand where
  drafts made member := by
    rcases List.mem_append.mp member with old | added
    · exact holds.drafts made old
    · exact new made (Option.mem_toList.mp added)
  operands := holds.operands

theorem Holds.addOperand (holds : session.Holds onDraft onOperand)
    {operand : Option Operand} (new : ∀ made ∈ operand, onOperand made) :
    (session.addOperand operand).Holds onDraft onOperand where
  drafts := holds.drafts
  operands made member := by
    rcases List.mem_append.mp member with old | added
    · exact holds.operands made old
    · exact new made (Option.mem_toList.mp added)

theorem Holds.perform (respected : Respected onDraft onOperand)
    (holds : session.Holds onDraft onOperand) (operation : Operation) :
    (session.perform operation).Holds onDraft onOperand := by
  cases operation with
  | make header payload policy =>
      apply holds.addOperand
      intro made success
      exact respected.make header payload policy made (Except.toOption_eq_some_iff.mp success)
  | makeOfKind kind header payload =>
      apply holds.addOperand
      intro made success
      exact respected.makeOfKind kind header payload made
        (Except.toOption_eq_some_iff.mp success)
  | start policy =>
      apply holds.addDraft
      rintro made ⟨⟩
      exact respected.start policy
  | set position setter =>
      apply holds.addDraft
      intro made success
      obtain ⟨draft, found, rfl⟩ := Option.map_eq_some_iff.mp success
      exact respected.set draft setter (holds.drafts draft (List.mem_of_getElem? found))
  | build position =>
      apply holds.addOperand
      intro made success
      obtain ⟨draft, found, built⟩ := Option.bind_eq_some_iff.mp success
      exact respected.build draft made (holds.drafts draft (List.mem_of_getElem? found))
        (Except.toOption_eq_some_iff.mp built)
  | reopen position =>
      apply holds.addDraft
      intro made success
      obtain ⟨operand, found, rfl⟩ := Option.map_eq_some_iff.mp success
      exact respected.reopen operand
        (holds.operands operand (List.mem_of_getElem? found))

/-- Whatever is respected holds of everything that a session makes. -/
theorem holds_run (respected : Respected onDraft onOperand) (operations : List Operation) :
    (run operations).Holds onDraft onOperand := by
  have kept : ∀ session : Session, session.Holds onDraft onOperand →
      (operations.foldl Session.perform session).Holds onDraft onOperand := by
    induction operations with
    | nil => exact fun _ holds => holds
    | cons operation rest ih =>
        exact fun session holds => ih _ (holds.perform respected operation)
  exact kept {} ⟨by simp, by simp⟩

/-- What a session makes has a lineage: each operation that makes something goes on
with at most one thing made before. -/
theorem respected_lineage :
    Respected Lineage.Passes
      (fun operand => ∃ lineage : Lineage, lineage.outcome = .ok operand) where
  start policy := .fresh policy []
  set _ setter passes := passes.set setter
  reopen operand := fun ⟨lineage, made⟩ => .reopened lineage operand [] made
  make header payload policy _ made := ⟨.parts header payload policy, made⟩
  makeOfKind kind header payload _ made := ⟨.ofKind kind header payload, made⟩
  build _ _ passes built := passes.exists_lineage built

end Session

/-- Some session makes the draft. -/
def Draft.Constructible (draft : Draft) : Prop :=
  ∃ operations, draft ∈ (Session.run operations).drafts

namespace Operand

/-- Some session makes the operand. -/
def Constructible (operand : Operand) : Prop :=
  ∃ operations, operand ∈ (Session.run operations).operands

theorem Constructible.exists_lineage {operand : Operand}
    (constructible : operand.Constructible) :
    ∃ lineage : Lineage, lineage.outcome = .ok operand := by
  obtain ⟨operations, member⟩ := constructible
  exact (Session.holds_run Session.respected_lineage operations).operands operand member

theorem Constructible.wellFormed {operand : Operand}
    (constructible : operand.Constructible) : operand.WellFormed := by
  obtain ⟨lineage, made⟩ := constructible.exists_lineage
  exact Lineage.wellFormed_of_outcome made

/-- One operation is enough. -/
theorem WellFormed.constructible {operand : Operand} (wellFormed : operand.WellFormed) :
    operand.Constructible := by
  obtain ⟨header, policy, made⟩ := wellFormed.exists_ofParts
  refine ⟨[.make header operand.payload policy], ?_⟩
  change operand ∈ [] ++ (ofParts header operand.payload policy).outcome.toOption.toList
  rw [made]
  exact List.mem_singleton_self operand

theorem Constructible.toDraft {operand : Operand} (constructible : operand.Constructible) :
    operand.toDraft.Constructible := by
  obtain ⟨operations, member⟩ := constructible
  obtain ⟨position, found⟩ := List.mem_iff_getElem?.mp member
  refine ⟨operations ++ [.reopen position], ?_⟩
  rw [Session.run_concat, Session.perform, found]
  exact List.mem_append_right _ (List.mem_singleton_self _)

/-- Sessions and lineages lead to the same operands. -/
theorem constructible_iff_exists_lineage {operand : Operand} :
    operand.Constructible ↔ ∃ lineage : Lineage, lineage.outcome = .ok operand := by
  constructor
  · exact Constructible.exists_lineage
  · rintro ⟨lineage, made⟩
    exact (Lineage.wellFormed_of_outcome made).constructible

/-- The operands that sessions make: those with a valid payload and a text within its
limit, which is used up if anything was cut. -/
theorem exists_session_iff (operand : Operand) :
    (∃ operations, operand ∈ (Session.run operations).operands) ↔
      operand.payload.validate = .ok () ∧ operand.text.value.length ≤ maxChars ∧
        (operand.text.truncated = true → operand.text.value.length = maxChars) := by
  constructor
  · intro constructible
    obtain ⟨valid, within⟩ := Constructible.wellFormed constructible
    exact ⟨valid, within.length_le, within.length_of_truncated⟩
  · rintro ⟨valid, length_le, length_of_truncated⟩
    exact WellFormed.constructible ⟨valid, length_le, length_of_truncated⟩

end Operand

namespace Draft

theorem Constructible.set {draft : Draft} (constructible : draft.Constructible)
    (setter : Setter) : (draft.set setter).Constructible := by
  obtain ⟨operations, member⟩ := constructible
  obtain ⟨position, found⟩ := List.mem_iff_getElem?.mp member
  refine ⟨operations ++ [.set position setter], ?_⟩
  rw [Session.run_concat, Session.perform, found]
  exact List.mem_append_right _ (List.mem_singleton_self _)

theorem Constructible.run {draft : Draft} (constructible : draft.Constructible)
    (setters : List Setter) : (draft.run setters).Constructible := by
  induction setters generalizing draft with
  | nil => exact constructible
  | cons setter rest ih => exact ih (constructible.set setter)

theorem Constructible.build {draft : Draft} (constructible : draft.Constructible)
    {operand : Operand} (built : draft.build.outcome = .ok operand) :
    operand.Constructible := by
  obtain ⟨operations, member⟩ := constructible
  have passes := (Session.holds_run Session.respected_lineage operations).drafts draft member
  exact Operand.constructible_iff_exists_lineage.mpr (passes.exists_lineage built)

end Draft

end GpuOperand

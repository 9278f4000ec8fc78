import GpuOperand.Draft.PayloadEdit
import GpuOperand.Operand.Basic

/-!
# Drafts

A draft is an operand in the making, filled in field by field in any order, the
way a decoder walks an instruction.  The first failure is kept and reported when
the draft is built, whatever is set after it.  An operand can be turned back
into a draft to make a changed copy of it.
-/

namespace GpuOperand

/-- An operand in the making. -/
structure Draft where
  header : Header := {}
  /-- The text was taken from an operand whose text had been cut. -/
  textTruncated : Bool := false
  pending : Option Payload := none
  policy : TextPolicy := .reject
  failure : Option OperandError := none
  deriving DecidableEq, Inhabited

/-- One step in filling in a draft. -/
inductive Setter where
  | policy (policy : TextPolicy)
  | text (text : String)
  | negated (flag : Bool)
  | inverted (flag : Bool)
  | absolute (flag : Bool)
  | sizeBytes (width : UInt32)
  | payload (change : PayloadEdit)
  deriving DecidableEq

namespace Draft

/-- A draft in which only the policy has been chosen. -/
def start (policy : TextPolicy := .reject) : Draft :=
  { policy }

/-- Set the flags of a draft. -/
def mapFlags (draft : Draft) (change : Flags → Flags) : Draft :=
  { draft with header := { draft.header with flags := change draft.header.flags } }

/-- Edit the pending payload, and keep the failure of the edit unless an earlier
one is kept already. -/
def edit (draft : Draft) (change : PayloadEdit) : Draft :=
  let result := change.apply draft.pending
  { draft with pending := result.pending, failure := draft.failure.or result.failure }

/-- Fill in one field.  A new text has not been cut. -/
def set (draft : Draft) : Setter → Draft
  | .policy policy => { draft with policy }
  | .text text =>
      { draft with header := { draft.header with text }, textTruncated := false }
  | .negated negated => draft.mapFlags fun flags => { flags with negated }
  | .inverted inverted => draft.mapFlags fun flags => { flags with inverted }
  | .absolute absolute => draft.mapFlags fun flags => { flags with absolute }
  | .sizeBytes sizeBytes => { draft with header := { draft.header with sizeBytes } }
  | .payload change => draft.edit change

/-- Fill in fields one after another. -/
def run (draft : Draft) (setters : List Setter) : Draft :=
  setters.foldl set draft

/-- Make the operand that the draft describes. -/
def build (draft : Draft) : Logged OperandError Operand :=
  match draft.failure, draft.pending with
  | some failure, _ => .fail failure
  | none, none => .fail .missingPayload
  | none, some payload =>
      (Operand.ofParts draft.header payload draft.policy).map
        (Operand.markTruncated · draft.textTruncated)

end Draft

/-- A draft that builds the operand again.  A later text is judged by the policy
that refuses long texts, unless another one is set. -/
def Operand.toDraft (operand : Operand) : Draft :=
  { header := operand.header
    textTruncated := operand.text.truncated
    pending := some operand.payload }

end GpuOperand

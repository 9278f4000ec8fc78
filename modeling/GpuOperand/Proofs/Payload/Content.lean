import GpuOperand.Payload.Basic

/-!
# Contents of payloads

A payload is a kind together with a content of that kind.  It is of no other kind, and
asking for the content of another kind gives nothing, so a content that is found makes up
the whole payload.
-/

namespace GpuOperand

namespace Payload

theorem isOf_eq_decide (kind : Kind) (payload : Payload) :
    payload.isOf kind = decide (payload.kind = kind) := by
  cases kind <;> cases payload <;> rfl

theorem exists_ofContent {payload : Payload} {kind : Kind} (same : payload.kind = kind) :
    ∃ content, ofContent kind content = payload := by
  subst same
  cases payload <;> exact ⟨_, rfl⟩

theorem content?_ofContent (kind : Kind) (content : kind.Content) :
    (ofContent kind content).content? kind = some content := by
  cases kind <;> rfl

theorem map_ofContent_content? (kind : Kind) (payload : Payload) :
    (payload.content? kind).map (ofContent kind) =
      if payload.kind = kind then some payload else none := by
  cases kind <;> cases payload <;> rfl

variable {payload : Payload} {kind : Kind}

theorem content?_eq_some_iff {content : kind.Content} :
    payload.content? kind = some content ↔ ofContent kind content = payload := by
  constructor
  · intro found
    have whole := payload.map_ofContent_content? kind
    rw [found, Option.map_some] at whole
    split at whole
    · exact Option.some.inj whole
    · contradiction
  · rintro rfl
    exact content?_ofContent kind content

theorem content?_eq_none_iff : payload.content? kind = none ↔ payload.kind ≠ kind := by
  rw [← Option.map_eq_none_iff, map_ofContent_content?]
  simp

end Payload

end GpuOperand

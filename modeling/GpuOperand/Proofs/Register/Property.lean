import GpuOperand.Payload.Basic
import GpuOperand.Proofs.Register.Suffix

/-!
# Modifiers in property texts

A property text is read segment by segment, and the first segment that names a modifier
decides.  So what stands in front of a dot is asked before what stands behind it, a text
without a dot is read as one suffix, and segments that name nothing might as well be absent.
-/

namespace GpuOperand

namespace RegModifier

theorem segments_eq_splitOn (characters : List Char) :
    segments characters = characters.splitOn '.' := by
  induction characters with
  | nil => rfl
  | cons character rest ih =>
      obtain ⟨first, others, split⟩ := List.exists_cons_of_ne_nil (List.splitOn_ne_nil '.' rest)
      rw [segments, ih, split, List.splitOn_cons_eq_if_modifyHead, split]
      simp

/-- The modifier that a property text names first, if it names any. -/
def named? (property : String) : Option RegModifier :=
  (segments property.toList).findSome? fun segment => ofSuffix? (String.ofList segment)

theorem ofProperty_eq (property : String) : ofProperty property = (named? property).getD plain :=
  rfl

theorem named?_append (first second : String) :
    named? (first ++ "." ++ second) = (named? first).or (named? second) := by
  have dotted : (first ++ "." ++ second).toList = first.toList ++ '.' :: second.toList := by
    simp
  unfold named?
  rw [dotted, segments_eq_splitOn, List.splitOn_append_cons_self, List.findSome?_append,
    segments_eq_splitOn, segments_eq_splitOn]

theorem named?_of_dotless {segment : String} (dotless : '.' ∉ segment.toList) :
    named? segment = ofSuffix? segment := by
  have single : segments segment.toList = [segment.toList] := by
    rw [segments_eq_splitOn, List.splitOn_eq_splitOnP]
    apply List.splitOnP_eq_singleton
    intro character member
    exact beq_false_of_ne (ne_of_mem_of_not_mem member dotless)
  rw [named?, single, List.findSome?_singleton, String.ofList_toList]

theorem named?_ne_plain (property : String) : named? property ≠ some plain := by
  intro found
  obtain ⟨segment, _, recognised⟩ := List.exists_of_findSome?_eq_some found
  exact ofSuffix?_ne_plain _ recognised

/-- A property text without a modifier is one that names none. -/
theorem ofProperty_eq_plain_iff {property : String} :
    ofProperty property = plain ↔ named? property = none := by
  rw [ofProperty_eq]
  cases named : named? property with
  | none => simp
  | some modifier =>
      have proper : modifier ≠ plain := by
        rintro rfl
        exact named?_ne_plain property named
      simp [proper]

theorem ofProperty_append (first second : String) :
    ofProperty (first ++ "." ++ second) =
      if ofProperty first ≠ plain then ofProperty first else ofProperty second := by
  rw [ofProperty_eq, named?_append]
  by_cases unnamed : ofProperty first = plain
  · rw [if_neg (not_not_intro unnamed), ofProperty_eq_plain_iff.mp unnamed, Option.none_or]
    rfl
  · obtain ⟨modifier, named⟩ :=
      Option.ne_none_iff_exists'.mp (mt ofProperty_eq_plain_iff.mpr unnamed)
    rw [if_pos unnamed, ofProperty_eq, named, Option.some_or]

/-- By induction on the parts: each dot between two of them separates what is asked first. -/
theorem named?_intercalate (parts : List String) :
    named? (".".intercalate parts) = parts.findSome? named? := by
  induction parts with
  | nil => decide
  | cons first rest ih =>
      cases rest with
      | nil => simp
      | cons second others =>
          rw [String.intercalate_cons_cons, named?_append, ih]
          cases named : named? first <;> simp [List.findSome?_cons, named]

theorem named?_intercalate_insert {inserted : List String}
    (unnamed : ∀ part ∈ inserted, named? part = none) (before after : List String) :
    named? (".".intercalate (before ++ inserted ++ after)) =
      named? (".".intercalate (before ++ after)) := by
  have skipped : inserted.findSome? named? = none := List.findSome?_eq_none_iff.mpr unnamed
  simp only [named?_intercalate, List.findSome?_append, skipped, Option.or_none]

end RegModifier

namespace RegisterUse

open RegModifier

/-- The modifier of a register is the one that its property names in front of a dot, or
behind it where the front names none; without a dot, the property is one suffix.  Segments
that are not recognised can be inserted or deleted anywhere. -/
theorem modifier_firstRecognised (number : RegNum) :
    (∀ first second, modifier ⟨number, first ++ "." ++ second⟩ =
        if modifier ⟨number, first⟩ ≠ .plain then modifier ⟨number, first⟩
        else modifier ⟨number, second⟩) ∧
      (∀ segment, '.' ∉ segment.toList →
        modifier ⟨number, segment⟩ = (ofSuffix? segment).getD .plain) ∧
      ∀ before inserted after,
        (∀ segment ∈ inserted, '.' ∉ segment.toList ∧ ofSuffix? segment = none) →
        modifier ⟨number, ".".intercalate (before ++ inserted ++ after)⟩ =
          modifier ⟨number, ".".intercalate (before ++ after)⟩ := by
  refine ⟨ofProperty_append, ?_, ?_⟩
  · intro segment dotless
    rw [modifier, ofProperty_eq, named?_of_dotless dotless]
  · intro before inserted after unrecognised
    have unnamed : ∀ segment ∈ inserted, named? segment = none := by
      intro segment member
      obtain ⟨dotless, unknown⟩ := unrecognised segment member
      rw [named?_of_dotless dotless, unknown]
    rw [modifier, modifier, ofProperty_eq, ofProperty_eq, named?_intercalate_insert unnamed]

/-- An empty segment and one that is not recognised, between a dot and the alias of a size. -/
theorem modifier_firstRecognised_reuse :
    let inserted := ["reuse", ""]
    (∀ segment ∈ inserted, '.' ∉ segment.toList ∧ ofSuffix? segment = none) ∧
      ".".intercalate ([""] ++ inserted ++ ["U64", "X4"]) = ".reuse..U64.X4" ∧
      modifier ⟨255, ".reuse..U64.X4"⟩ = modifier ⟨255, ".U64.X4"⟩ ∧
      modifier ⟨255, "U64.X4"⟩ = modifier ⟨255, "U64"⟩ ∧
      '.' ∉ "U64".toList ∧ modifier ⟨255, "U64"⟩ = .u64 := by
  intro inserted
  obtain ⟨split, single, insert⟩ := modifier_firstRecognised 255
  have unrecognised : ∀ segment ∈ inserted,
      '.' ∉ segment.toList ∧ ofSuffix? segment = none := by decide
  have dotless : '.' ∉ "U64".toList := by decide
  have size : modifier ⟨255, "U64"⟩ = .u64 := single "U64" dotless
  have named : modifier ⟨255, "U64"⟩ ≠ .plain := by
    rw [size]
    decide
  exact ⟨unrecognised, by decide, insert [""] inserted ["U64", "X4"] unrecognised,
    (split "U64" "X4").trans (if_pos named), dotless, size⟩

end RegisterUse

end GpuOperand

import GpuOperand.Proofs.Text.Limit
import Mathlib.Algebra.Ring.Nat

/-!
# Cutting encoded texts

The limit counts characters, but a text is cut in its encoding, where a character takes from
one to four bytes.  What stands before the byte at which the first character beyond the limit
begins is the beginning of the text with as many characters as the limit allows, and every
character is wholly on one side of the cut.
-/

namespace GpuOperand

theorem encodedSize_eq_sum (characters : List Char) :
    encodedSize characters = (characters.map Char.utf8Size).sum := by
  induction characters with
  | nil => rfl
  | cons character rest ih => rw [encodedSize, ih, List.map_cons, List.sum_cons]

/-- Placed characters take up the bytes from the start to the end of the encoding. -/
theorem bounds_of_mem_placedCharacters {start offset : Nat} {character : Char}
    {characters : List Char}
    (member : (offset, character) ∈ placedCharacters start characters) :
    start ≤ offset ∧ offset + character.utf8Size ≤ start + encodedSize characters := by
  induction characters generalizing start with
  | nil => simp [placedCharacters] at member
  | cons first rest ih =>
      rw [placedCharacters, List.mem_cons, Prod.mk.injEq] at member
      rw [encodedSize]
      rcases member with ⟨rfl, rfl⟩ | member
      · omega
      · have bounds := ih member
        omega

/-- No character of a text begins before the end of a beginning and ends behind it. -/
theorem unsplit_append {kept rest : String} {offset : Nat} {character : Char}
    (member : (offset, character) ∈ placedCharacters 0 (kept ++ rest).toList) :
    offset + character.utf8Size ≤ kept.utf8ByteSize ∨ kept.utf8ByteSize ≤ offset := by
  rw [String.toList_append, placedCharacters_append, List.mem_append, Nat.zero_add,
    ← utf8ByteSize_eq_encodedSize] at member
  rcases member with inside | behind
  · left
    have bounds := bounds_of_mem_placedCharacters inside
    rw [Nat.zero_add, ← utf8ByteSize_eq_encodedSize] at bounds
    exact bounds.2
  · right
    exact (bounds_of_mem_placedCharacters behind).1

/-- Of two beginnings of a text, the longer one goes on where the shorter one ends. -/
theorem exists_between {first second firstRest secondRest : String}
    (same : first ++ firstRest = second ++ secondRest)
    (shorter : first.length ≤ second.length) : ∃ between, second = first ++ between := by
  have characters := congrArg String.toList same
  rw [String.toList_append, String.toList_append] at characters
  rw [← String.length_toList, ← String.length_toList] at shorter
  have firstPrefix : first.toList <+: second.toList ++ secondRest.toList := ⟨_, characters⟩
  obtain ⟨between, goesOn⟩ := List.prefix_of_prefix_length_le firstPrefix
    (List.prefix_append second.toList secondRest.toList) shorter
  refine ⟨String.ofList between, ?_⟩
  rw [← String.toList_inj, String.toList_append, String.toList_ofList, goesOn]

namespace BoundedText

/-- What remains of a text that is cut where its first character beyond the limit begins. -/
structure CutTo (source kept : String) : Prop where
  length : kept.length = 256
  rest : ∃ rest, rest ≠ "" ∧ source = kept ++ rest
  longest : ∀ other rest, other.length ≤ 256 → source = other ++ rest →
    ∃ between, kept = other ++ between
  unique : ∀ other rest, other.length = 256 → source = other ++ rest → other = kept
  found : cutOffset? source = some kept.utf8ByteSize
  bytes : source.toByteArray.extract 0 kept.utf8ByteSize = kept.toByteArray
  size : kept.utf8ByteSize = ((source.toList.take 256).map Char.utf8Size).sum
  widths : ∀ character ∈ source.toList, 1 ≤ character.utf8Size ∧ character.utf8Size ≤ 4
  boundary : String.Pos.Raw.IsValid source ⟨kept.utf8ByteSize⟩
  unsplit : ∀ offset character, (offset, character) ∈ placedCharacters 0 source.toList →
    offset + character.utf8Size ≤ kept.utf8ByteSize ∨ kept.utf8ByteSize ≤ offset

theorem cutTo_beginning {source : String} (long : maxChars < source.length) :
    CutTo source (beginning source) := by
  have length := length_beginning_of_long long
  obtain ⟨rest, remains, split⟩ := exists_beginning_append long
  have longest : ∀ other otherRest, other.length ≤ maxChars →
      source = other ++ otherRest → ∃ between, beginning source = other ++ between := by
    intro other otherRest fits same
    rw [← length] at fits
    exact exists_between (same.symm.trans split) fits
  constructor
  · exact length
  · exact ⟨rest, remains, split⟩
  · exact longest
  · intro other otherRest full same
    change other.length = maxChars at full
    obtain ⟨between, goesOn⟩ := longest other otherRest (Nat.le_of_eq full) same
    have lengths := congrArg String.length goesOn
    rw [String.length_append, length, full] at lengths
    have nothing : between = "" := String.length_eq_zero_iff.mp (by omega)
    rw [goesOn, nothing, String.append_empty]
  · rw [← cutOffset?_append length remains, ← split]
  · have bytes := extract_toByteArray_append (beginning source) rest
    rwa [← split] at bytes
  · rw [beginning, utf8ByteSize_ofList_eq, encodedSize_eq_sum]
    rfl
  · exact fun character _ => ⟨character.utf8Size_pos, character.utf8Size_le_four⟩
  · exact String.Pos.Raw.isValid_iff_exists_append.mpr ⟨_, rest, split, rfl⟩
  · intro offset character member
    rw [split] at member
    exact unsplit_append member

/-- A text that is not too long is taken over as it is.  A longer one is refused with its
number of characters, or cut at the byte at which the first character beyond the limit
begins, which leaves the longest beginning that the limit allows.  What was taken over once
is taken over again as a whole. -/
theorem ofString_keepsLongest (source : String) :
    (source.length ≤ 256 → ∀ policy, ofString source policy = .ok ⟨source, false⟩) ∧
      (256 < source.length →
        ofString source .reject = .fail (.textTooLong "text" source.length 256) ∧
        ∃ kept, CutTo source kept ∧
          ofString source .truncate =
            ⟨.ok ⟨kept, true⟩, [.textTruncated (.textTooLong "text" source.length 256)]⟩) ∧
      ∀ policy text, (ofString source policy).outcome = .ok text →
        ∀ again, ofString text.value again = .ok ⟨text.value, false⟩ := by
  refine ⟨fun fits policy => ofString_of_fits fits policy, ?_, ?_⟩
  · intro long
    exact ⟨ofString_reject_of_long long, beginning source, cutTo_beginning long,
      ofString_truncate_of_long long⟩
  · intro policy text taken again
    obtain ⟨_, rfl⟩ := outcome_ofString_eq_ok_iff.mp taken
    exact ofString_of_fits (length_beginning_le source) again

/-- The limit falls between a character of two bytes and one of three. -/
theorem ofString_keepsLongest_multibyte :
    let source := String.ofList (List.replicate 255 'R' ++ ['é', '€', '😀'])
    let kept := String.ofList (List.replicate 255 'R' ++ ['é'])
    256 < source.length ∧ CutTo source kept ∧ cutOffset? source = some 257 ∧
      ofString source .reject = .fail (.textTooLong "text" 258 256) ∧
      ofString source .truncate =
        ⟨.ok ⟨kept, true⟩, [.textTruncated (.textTooLong "text" 258 256)]⟩ ∧
      ∀ again, ofString kept again = .ok ⟨kept, false⟩ := by
  intro source kept
  have length : source.length = 258 := by
    rw [String.length_ofList, List.length_append, List.length_replicate]
    rfl
  have long : 256 < source.length := by omega
  obtain ⟨_, beyond, taken⟩ := ofString_keepsLongest source
  obtain ⟨refused, found, cut, truncated⟩ := beyond long
  rw [length] at refused truncated
  have full : kept.length = 256 := by
    rw [String.length_ofList, List.length_append, List.length_replicate]
    rfl
  have split : source = kept ++ String.ofList ['€', '😀'] := by
    rw [← String.ofList_append, List.append_assoc]
    rfl
  obtain rfl : kept = found := cut.unique kept _ full split
  have size : kept.utf8ByteSize = 257 := by
    rw [utf8ByteSize_ofList_eq, encodedSize_eq_sum, List.map_append, List.map_replicate,
      List.sum_append_nat, List.sum_replicate_nat]
    rfl
  have again := taken .truncate ⟨kept, true⟩ (congrArg Logged.outcome truncated)
  exact ⟨long, cut, size ▸ cut.found, refused, truncated, again⟩

end BoundedText

end GpuOperand

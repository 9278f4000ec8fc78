import GpuOperand.Text.Bounded

/-!
# Offsets in encoded texts

A text is searched character by character, but it is cut in its encoding, where a character
takes from one to four bytes.  The offset of a character is the size of what stands before
it.  So the search for the first character beyond the limit finds the size of the beginning
that is within it, and cutting there leaves exactly this beginning.
-/

namespace GpuOperand

/-- How many bytes characters take when they are encoded. -/
def encodedSize : List Char → Nat
  | [] => 0
  | character :: rest => character.utf8Size + encodedSize rest

theorem utf8ByteSize_ofList_eq (characters : List Char) :
    (String.ofList characters).utf8ByteSize = encodedSize characters := by
  induction characters with
  | nil => rfl
  | cons character rest ih =>
      rw [String.ofList_cons, String.utf8ByteSize_append, String.utf8ByteSize_singleton, ih,
        encodedSize]

theorem utf8ByteSize_eq_encodedSize (text : String) :
    text.utf8ByteSize = encodedSize text.toList := by
  rw [← utf8ByteSize_ofList_eq, String.ofList_toList]

section Placed

variable (start : Nat) (characters later : List Char)

@[simp]
theorem length_placedCharacters :
    (placedCharacters start characters).length = characters.length := by
  induction characters generalizing start with
  | nil => rfl
  | cons character rest ih => simp [placedCharacters, ih]

theorem placedCharacters_append :
    placedCharacters start (characters ++ later) =
      placedCharacters start characters ++
        placedCharacters (start + encodedSize characters) later := by
  induction characters generalizing start with
  | nil => rfl
  | cons character rest ih =>
      simp [placedCharacters, encodedSize, ih, Nat.add_assoc]

end Placed

theorem extract_toByteArray_append (kept rest : String) :
    (kept ++ rest).toByteArray.extract 0 kept.utf8ByteSize = kept.toByteArray := by
  rw [String.toByteArray_append]
  exact ByteArray.extract_append_eq_left String.size_toByteArray.symm

theorem fromUTF8?_toByteArray (text : String) :
    String.fromUTF8? text.toByteArray = some text :=
  dif_pos text.isValidUTF8

namespace BoundedText

/-- Looking for the first character beyond the limit finds the end of what the limit
allows. -/
theorem cutOffset?_append {kept rest : String} (full : kept.length = maxChars)
    (remains : rest ≠ "") : cutOffset? (kept ++ rest) = some kept.utf8ByteSize := by
  obtain ⟨next, others, restEq⟩ : ∃ next others, rest.toList = next :: others := by
    apply List.exists_cons_of_ne_nil
    simpa using remains
  have before : (placedCharacters 0 kept.toList).length = maxChars := by
    rw [length_placedCharacters, String.length_toList, full]
  rw [cutOffset?, String.toList_append, placedCharacters_append,
    List.getElem?_append_right (Nat.le_of_eq before), before, Nat.sub_self, restEq,
    placedCharacters, List.getElem?_cons_zero, Option.map_some, Nat.zero_add,
    utf8ByteSize_eq_encodedSize]

theorem cut_append {kept rest : String} (full : kept.length = maxChars)
    (remains : rest ≠ "") : cut (kept ++ rest) = kept := by
  rw [cut, cutOffset?_append full remains]
  change (String.fromUTF8? ((kept ++ rest).toByteArray.extract 0 kept.utf8ByteSize)).getD _ = _
  rw [extract_toByteArray_append, fromUTF8?_toByteArray, Option.getD_some]

end BoundedText

end GpuOperand

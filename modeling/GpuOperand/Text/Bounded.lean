import GpuOperand.Logged

/-!
# Bounded text

No text of an operand is longer than 256 characters.  Whether a longer operand
text is refused or cut is decided by a policy; a text that was cut remembers it.
-/

namespace GpuOperand

/-- The most characters in an operand's text, register property or generic text. -/
def maxChars : Nat := 256

/-- Fail for a text with too many characters. -/
def checkLength (field text : String) : Except OperandError Unit :=
  if text.length ≤ maxChars then .ok () else .error (.textTooLong field text.length maxChars)

/-- What to do with an operand text that is too long. -/
inductive TextPolicy where
  | reject
  | truncate
  deriving DecidableEq, Inhabited

/-- The literal text of an operand, and whether characters were cut from it. -/
structure BoundedText where
  value : String := ""
  truncated : Bool := false
  deriving DecidableEq, Inhabited

/-- Characters with the bytes at which they begin, the first one at the given byte. -/
def placedCharacters (start : Nat) : List Char → List (Nat × Char)
  | [] => []
  | character :: rest =>
      (start, character) :: placedCharacters (start + character.utf8Size) rest

namespace BoundedText

/-- The byte at which the first character beyond the limit begins. -/
def cutOffset? (source : String) : Option Nat :=
  (placedCharacters 0 source.toList)[maxChars]?.map Prod.fst

/-- Drop the bytes of a text from the first character beyond the limit on.  What is left
ends with a whole character, so it is a text again. -/
def cut (source : String) : String :=
  match cutOffset? source with
  | some offset => (String.fromUTF8? (source.toByteArray.extract 0 offset)).getD source
  | none => source

/-- Take over a text.  A text that is too long is refused, or cut with a notice of what it
would have been refused for. -/
def ofString (text : String) (policy : TextPolicy) : Logged OperandError BoundedText :=
  match checkLength "text" text with
  | .ok () => .ok ⟨text, false⟩
  | .error fault =>
      match policy with
      | .truncate => (Logged.ok ⟨cut text, true⟩).andNote [.textTruncated fault]
      | .reject => .fail fault

end BoundedText

end GpuOperand

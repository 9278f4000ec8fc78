import GpuOperand.Proofs.Text.Delimited
import GpuOperand.Text.Quoted

/-!
# Reading quoted texts

What is written for a character begins with a backslash exactly if the character is
escaped, and the second character of an escape tells how it goes on.  So a quoted text
can be read character by character up to the closing quotation mark, which is never
written bare for a character of the text.
-/

namespace GpuOperand

namespace Quoted

/-- The character that an escape of two characters stands for. -/
def ofEscapeLetter? : Char → Option Char
  | '0' => some '\x00'
  | 't' => some '\t'
  | 'n' => some '\n'
  | 'r' => some '\r'
  | '"' => some '"'
  | '\\' => some '\\'
  | _ => none

theorem ofEscapeLetter?_of_escapeLetter? {character letter : Char}
    (escaped : escapeLetter? character = some letter) :
    ofEscapeLetter? letter = some character := by
  unfold escapeLetter? at escaped
  split at escaped <;> cases escaped <;> rfl

theorem ne_u_of_escapeLetter? {character letter : Char}
    (escaped : escapeLetter? character = some letter) : letter ≠ 'u' := by
  rintro rfl
  have read := ofEscapeLetter?_of_escapeLetter? escaped
  simp [ofEscapeLetter?] at read

theorem ne_backslash_of_plain {character : Char} (plain : escapeLetter? character = none) :
    character ≠ '\\' := by
  rintro rfl
  simp [escapeLetter?] at plain

/-- The three written forms of a character. -/
theorem escape_cases (character : Char) :
    (∃ letter, escapeLetter? character = some letter ∧ escape character = ['\\', letter]) ∨
      (escapeLetter? character = none ∧ escape character = [character]) ∨
      (escapeLetter? character = none ∧ escape character =
        '\\' :: 'u' :: '{' :: Nat.toDigits 16 character.toNat ++ ['}']) := by
  cases escaped : escapeLetter? character with
  | some letter => exact Or.inl ⟨letter, rfl, by simp [escape, escaped]⟩
  | none =>
      cases visible : isVisible character with
      | true => exact Or.inr (Or.inl ⟨rfl, by simp [escape, escaped, visible]⟩)
      | false => exact Or.inr (Or.inr ⟨rfl, by simp [escape, escaped, visible]⟩)

theorem delimited_escape : Delimited escape fun _ _ => True := by
  intro first second firstRest secondRest _ _ same
  rcases escape_cases first with
    ⟨firstLetter, firstEscaped, firstText⟩ | ⟨firstPlain, firstText⟩ | ⟨firstPlain, firstText⟩
  · rcases escape_cases second with
      ⟨secondLetter, secondEscaped, secondText⟩ | ⟨secondPlain, secondText⟩ |
        ⟨secondPlain, secondText⟩ <;>
      simp only [firstText, secondText, List.cons_append, List.nil_append, List.cons.injEq,
        true_and] at same
    · obtain ⟨rfl, rests⟩ := same
      have firstRead := ofEscapeLetter?_of_escapeLetter? firstEscaped
      have secondRead := ofEscapeLetter?_of_escapeLetter? secondEscaped
      exact ⟨Option.some.inj (firstRead.symm.trans secondRead), rests⟩
    · exact absurd same.1.symm (ne_backslash_of_plain secondPlain)
    · exact absurd same.1 (ne_u_of_escapeLetter? firstEscaped)
  · rcases escape_cases second with
      ⟨secondLetter, secondEscaped, secondText⟩ | ⟨secondPlain, secondText⟩ |
        ⟨secondPlain, secondText⟩ <;>
      simp only [firstText, secondText, List.cons_append, List.nil_append, List.cons.injEq]
        at same
    · exact absurd same.1 (ne_backslash_of_plain firstPlain)
    · exact same
    · exact absurd same.1 (ne_backslash_of_plain firstPlain)
  · rcases escape_cases second with
      ⟨secondLetter, secondEscaped, secondText⟩ | ⟨secondPlain, secondText⟩ |
        ⟨secondPlain, secondText⟩ <;>
      simp only [firstText, secondText, List.cons_append, List.nil_append, List.append_assoc,
        List.cons.injEq, true_and] at same
    · exact absurd same.1.symm (ne_u_of_escapeLetter? secondEscaped)
    · exact absurd same.1.symm (ne_backslash_of_plain secondPlain)
    · -- Two code points: the closing brace is no digit.
      have brace : Numeral.isDigit 16 '}' = false := by decide
      have stops (rest : List Char) : Stops (Numeral.isDigit 16) ('}' :: rest) :=
        stops_cons.mpr brace
      obtain ⟨codePoints, closed⟩ := Numeral.delimited_toDigits (by decide) (by decide)
        (stops firstRest) (stops secondRest) same
      exact ⟨Char.toNat_inj.mp codePoints, List.tail_eq_of_cons_eq closed⟩

/-- No character is written as a bare quotation mark. -/
theorem escape_ne_quotationMark (character : Char) (rest others : List Char) :
    escape character ++ rest ≠ '"' :: others := by
  rcases escape_cases character with ⟨letter, _, text⟩ | ⟨plain, text⟩ | ⟨_, text⟩
  · simp [text]
  · rw [text]
    intro same
    obtain ⟨rfl, _⟩ := List.cons_eq_cons.mp same
    simp [escapeLetter?] at plain
  · simp [text]

theorem delimited_encode :
    Delimited (fun text => encode text ++ ['"']) fun _ _ => True := by
  intro first
  induction first with
  | nil =>
      intro second firstRest secondRest _ _ same
      cases second with
      | nil => exact ⟨rfl, List.append_cancel_left same⟩
      | cons character others =>
          have opened : escape character ++ (encode others ++ ['"'] ++ secondRest) =
              '"' :: firstRest := by
            simpa [encode] using same.symm
          exact absurd opened (escape_ne_quotationMark _ _ _)
  | cons character others ih =>
      intro second firstRest secondRest _ _ same
      cases second with
      | nil =>
          have opened : escape character ++ (encode others ++ ['"'] ++ firstRest) =
              '"' :: secondRest := by
            simpa [encode] using same
          exact absurd opened (escape_ne_quotationMark _ _ _)
      | cons secondCharacter secondOthers =>
          have split : escape character ++ (encode others ++ ['"'] ++ firstRest) =
              escape secondCharacter ++ (encode secondOthers ++ ['"'] ++ secondRest) := by
            simpa [encode] using same
          obtain ⟨rfl, remaining⟩ := delimited_escape trivial trivial split
          obtain ⟨rfl, rests⟩ := ih trivial trivial remaining
          exact ⟨rfl, rests⟩

end Quoted

theorem delimited_quoted :
    Delimited (fun text : String => (quoted text).toList) fun _ _ => True := by
  intro first second firstRest secondRest _ _ same
  have encoded : (Quoted.encode first.toList ++ ['"']) ++ firstRest =
      (Quoted.encode second.toList ++ ['"']) ++ secondRest := by
    simpa [quoted] using same
  obtain ⟨characters, rests⟩ := Quoted.delimited_encode trivial trivial encoded
  exact ⟨String.toList_injective characters, rests⟩

end GpuOperand

import GpuOperand.Proofs.NameTable

/-!
# Delimited texts

Written values are delimited if a value can be told from what follows it: the
characters of both together leave no choice where the value ends, nor which value it
is.  What may follow a value is part of the notion.  A numeral, for one, is delimited
where no further digit follows.
-/

namespace GpuOperand

/-- Values and rests are determined by the characters of a written value and the rest
together, as long as only admissible rests follow. -/
def Delimited {Value : Type} (write : Value → List Char)
    (follows : Value → List Char → Prop) : Prop :=
  ∀ ⦃first second : Value⦄ ⦃firstRest secondRest : List Char⦄,
    follows first firstRest → follows second secondRest →
    write first ++ firstRest = write second ++ secondRest →
    first = second ∧ firstRest = secondRest

/-- No character of the class comes next. -/
def Stops (belongs : Char → Bool) (rest : List Char) : Prop :=
  ∀ character ∈ rest.head?, belongs character = false

section Stops

variable {belongs : Char → Bool} {rest : List Char}

@[simp]
theorem stops_nil : Stops belongs [] := by
  simp [Stops]

@[simp]
theorem stops_cons {character : Char} :
    Stops belongs (character :: rest) ↔ belongs character = false := by
  simp [Stops]

/-- A mark that begins outside the class stops it, whatever comes behind the mark. -/
theorem stops_append {mark : List Char} (outside : mark.head?.map belongs = some false)
    (rest : List Char) : Stops belongs (mark ++ rest) := by
  obtain ⟨character, first, other⟩ := Option.map_eq_some_iff.mp outside
  obtain ⟨others, rfl⟩ := List.head?_eq_some_iff.mp first
  exact stops_cons.mpr other

theorem Stops.mono {narrower : Char → Bool} (stops : Stops belongs rest)
    (included : ∀ character, narrower character = true → belongs character = true) :
    Stops narrower rest := by
  intro character next
  have outside := stops character next
  rw [← Bool.not_eq_true] at outside ⊢
  exact fun inside => outside (included character inside)

theorem not_prefix_of_stops {character : Char} {mark : List Char}
    (stops : Stops (· == character) rest) : ¬ character :: mark <+: rest := by
  rintro ⟨others, rfl⟩
  simp at stops

theorem takeWhile_append_of_stops {text : List Char}
    (belong : ∀ character ∈ text, belongs character = true) (stops : Stops belongs rest) :
    (text ++ rest).takeWhile belongs = text := by
  have nothing : rest.takeWhile belongs = [] := by
    cases rest with
    | nil => rfl
    | cons character others =>
        rw [stops_cons] at stops
        rw [List.takeWhile_cons, stops]
        rfl
  rw [List.takeWhile_append_of_pos belong, nothing, List.append_nil]

/-- A text of one class of characters ends where the class ends. -/
theorem append_inj_of_stops {first second firstRest secondRest : List Char}
    (firstBelong : ∀ character ∈ first, belongs character = true)
    (secondBelong : ∀ character ∈ second, belongs character = true)
    (firstStops : Stops belongs firstRest) (secondStops : Stops belongs secondRest)
    (same : first ++ firstRest = second ++ secondRest) :
    first = second ∧ firstRest = secondRest := by
  have texts : first = second := by
    rw [← takeWhile_append_of_stops firstBelong firstStops, same,
      takeWhile_append_of_stops secondBelong secondStops]
  rw [texts] at same
  exact ⟨texts, List.append_cancel_left same⟩

end Stops

namespace Delimited

variable {Value : Type} {write : Value → List Char} {follows : Value → List Char → Prop}

theorem of_class {belongs : Char → Bool} (injective : Function.Injective write)
    (belong : ∀ value, ∀ character ∈ write value, belongs character = true) :
    Delimited write fun _ rest => Stops belongs rest := by
  intro first second firstRest secondRest firstStops secondStops same
  obtain ⟨texts, rests⟩ :=
    append_inj_of_stops (belong first) (belong second) firstStops secondStops same
  exact ⟨injective texts, rests⟩

theorem mono {narrower : Value → List Char → Prop} (delimited : Delimited write follows)
    (included : ∀ value rest, narrower value rest → follows value rest) :
    Delimited write narrower :=
  fun _ _ _ _ firstFollows secondFollows same =>
    delimited (included _ _ firstFollows) (included _ _ secondFollows) same

/-- A part that may be missing is recognised by the mark that it begins with. -/
theorem of_mark {absent : Value → Prop} {mark : List Char}
    (missing : ∀ ⦃value⦄, absent value → write value = [])
    (marked : ∀ ⦃value⦄, ¬ absent value → mark <+: write value)
    (unique : ∀ ⦃first second⦄, absent first → absent second → first = second)
    (delimited : Delimited write fun value rest => ¬ absent value ∧ follows value rest) :
    Delimited write fun value rest =>
      (absent value → ¬ mark <+: rest) ∧ (¬ absent value → follows value rest) := by
  have begins {value : Value} {rest other : List Char} (present : ¬ absent value)
      (same : write value ++ rest = other) : mark <+: other := by
    rw [← same]
    exact (marked present).trans (List.prefix_append _ _)
  intro first second firstRest secondRest firstFollows secondFollows same
  by_cases firstAbsent : absent first
  · rw [missing firstAbsent] at same
    by_cases secondAbsent : absent second
    · rw [missing secondAbsent] at same
      exact ⟨unique firstAbsent secondAbsent, same⟩
    · exact absurd (begins secondAbsent same.symm) (firstFollows.1 firstAbsent)
  · by_cases secondAbsent : absent second
    · rw [missing secondAbsent] at same
      exact absurd (begins firstAbsent same) (secondFollows.1 secondAbsent)
    · exact delimited ⟨firstAbsent, firstFollows.2 firstAbsent⟩
        ⟨secondAbsent, secondFollows.2 secondAbsent⟩ same

theorem optional (delimited : Delimited write follows) {mark : List Char}
    (marked : ∀ value, mark <+: write value) :
    Delimited (fun part : Option Value => part.elim [] write)
      fun part rest => part.elim (¬ mark <+: rest) (follows · rest) := by
  have missing : ∀ ⦃part : Option Value⦄, part = none → part.elim [] write = [] := by
    rintro part rfl
    rfl
  have begins : ∀ ⦃part : Option Value⦄, ¬ part = none → mark <+: part.elim [] write := by
    rintro (_ | value) present
    · exact absurd rfl present
    · exact marked value
  have present : Delimited (fun part : Option Value => part.elim [] write)
      fun part rest => ¬ part = none ∧ part.elim False (follows · rest) := by
    rintro (_ | first) (_ | second) firstRest secondRest ⟨_, firstFollows⟩
      ⟨_, secondFollows⟩ same
    case some.some =>
      obtain ⟨rfl, rests⟩ := delimited firstFollows secondFollows same
      exact ⟨rfl, rests⟩
    all_goals contradiction
  have unique : ∀ ⦃first second : Option Value⦄, first = none → second = none →
      first = second :=
    fun _ _ firstNone secondNone => firstNone.trans secondNone.symm
  apply (of_mark missing begins unique present).mono
  rintro (_ | value) rest follows
  · exact ⟨fun _ => follows, fun some => absurd rfl some⟩
  · exact ⟨fun none => by contradiction, fun _ => follows⟩

theorem unlessAbsent {absent : Value → Prop} [DecidablePred absent]
    (delimited : Delimited write fun value rest => ¬ absent value ∧ follows value rest)
    {mark : List Char} (marked : ∀ value, mark <+: write value)
    (unique : ∀ ⦃first second⦄, absent first → absent second → first = second) :
    Delimited (fun value => if absent value then [] else write value)
      fun value rest => if absent value then ¬ mark <+: rest else follows value rest := by
  have missing : ∀ ⦃value⦄, absent value → (if absent value then [] else write value) = [] :=
    fun _ absent => if_pos absent
  have begins : ∀ ⦃value⦄, ¬ absent value →
      mark <+: if absent value then [] else write value := by
    intro value present
    rw [if_neg present]
    exact marked value
  have present : Delimited (fun value => if absent value then [] else write value)
      fun value rest => ¬ absent value ∧ follows value rest := by
    intro first second firstRest secondRest firstFollows secondFollows same
    simp only [if_neg firstFollows.1, if_neg secondFollows.1] at same
    exact delimited firstFollows secondFollows same
  apply (of_mark missing begins unique present).mono
  intro value rest follows
  by_cases absence : absent value
  · rw [if_pos absence] at follows
    exact ⟨fun _ => follows, fun present => absurd absence present⟩
  · rw [if_neg absence] at follows
    exact ⟨fun absent => absurd absent absence, fun _ => follows⟩

end Delimited

namespace Numeral

/-- The digits of a base. -/
def digits (base : Nat) : List Char :=
  (List.range base).map Nat.digitChar

def isDigit (base : Nat) (character : Char) : Bool :=
  (digits base).contains character

theorem isDigit_digitChar {base digit : Nat} (below : digit < base) :
    isDigit base digit.digitChar = true := by
  rw [isDigit, List.contains_iff_mem]
  exact List.mem_map_of_mem (List.mem_range.mpr below)

theorem digitChar_inj {first second : Nat} (firstBelow : first < 16)
    (secondBelow : second < 16) (same : first.digitChar = second.digitChar) :
    first = second := by
  have distinct : ∀ first < 16, ∀ second < 16,
      Nat.digitChar first = Nat.digitChar second → first = second := by decide
  exact distinct first firstBelow second secondBelow same

theorem isDigit_of_mem_toDigits {base : Nat} (large : 1 < base) (number : Nat) :
    ∀ character ∈ Nat.toDigits base number, isDigit base character = true := by
  induction number using Nat.strongRecOn with
  | ind number ih =>
      intro character member
      by_cases below : number < base
      · rw [Nat.toDigits_of_lt_base below, List.mem_singleton] at member
        rw [member]
        exact isDigit_digitChar below
      · have smaller : number / base < number :=
          Nat.div_lt_self (by omega) large
        rw [Nat.toDigits_of_base_le large (Nat.not_lt.mp below), List.mem_append,
          List.mem_singleton] at member
        rcases member with leading | rfl
        · exact ih _ smaller character leading
        · exact isDigit_digitChar (Nat.mod_lt _ (by omega))

/-- The digits of a number determine it: the last one is the remainder, and the others
are the digits of the quotient. -/
theorem toDigits_injective {base : Nat} (large : 1 < base) (small : base ≤ 16) :
    Function.Injective (Nat.toDigits base) := by
  have lastDigit (number : Nat) : number % base < 16 :=
    Nat.lt_of_lt_of_le (Nat.mod_lt _ (by omega)) small
  have single {first second : Nat} (below : first < base) (le : base ≤ second) :
      Nat.toDigits base first ≠ Nat.toDigits base second := by
    rw [Nat.toDigits_of_lt_base below, Nat.toDigits_of_base_le large le]
    intro same
    have lengths := congrArg List.length same
    have leading : 0 < (Nat.toDigits base (second / base)).length := Nat.length_toDigits_pos
    rw [List.length_append, List.length_singleton, List.length_singleton] at lengths
    omega
  intro first
  induction first using Nat.strongRecOn with
  | ind first ih =>
      intro second same
      by_cases firstBelow : first < base
      · by_cases secondBelow : second < base
        · rw [Nat.toDigits_of_lt_base firstBelow, Nat.toDigits_of_lt_base secondBelow] at same
          exact digitChar_inj (by omega) (by omega) (List.singleton_inj.mp same)
        · exact absurd same (single firstBelow (Nat.not_lt.mp secondBelow))
      · by_cases secondBelow : second < base
        · exact absurd same.symm (single secondBelow (Nat.not_lt.mp firstBelow))
        · rw [Nat.toDigits_of_base_le large (Nat.not_lt.mp firstBelow),
            Nat.toDigits_of_base_le large (Nat.not_lt.mp secondBelow)] at same
          obtain ⟨leading, last⟩ := List.append_inj' same rfl
          have smaller : first / base < first := Nat.div_lt_self (by omega) large
          have quotients := ih _ smaller leading
          have remainders := digitChar_inj (lastDigit first) (lastDigit second)
            (List.singleton_inj.mp last)
          rw [← Nat.div_add_mod first base, quotients, remainders, Nat.div_add_mod]

theorem delimited_toDigits {base : Nat} (large : 1 < base) (small : base ≤ 16) :
    Delimited (Nat.toDigits base) fun _ rest => Stops (isDigit base) rest :=
  .of_class (toDigits_injective large small) (isDigit_of_mem_toDigits large)

theorem delimited_decimal :
    Delimited (fun number => (decimal number).toList)
      fun _ rest => Stops (isDigit 10) rest := by
  simp only [toList_decimal]
  exact delimited_toDigits (by decide) (by decide)

/-- Read backwards, a numeral ends in front of its first digit. -/
theorem delimited_reverse_decimal :
    Delimited (fun number => (decimal number).toList.reverse)
      fun _ rest => Stops (isDigit 10) rest := by
  simp only [toList_decimal]
  apply Delimited.of_class
  · exact List.reverse_injective.comp (toDigits_injective (by decide) (by decide))
  · intro number character member
    exact isDigit_of_mem_toDigits (by decide) number character (List.mem_reverse.mp member)

theorem delimited_hexadecimal :
    Delimited (fun number => (hexadecimal number).toList)
      fun _ rest => Stops (isDigit 16) rest := by
  intro first second firstRest secondRest firstStops secondStops same
  simp only [toList_hexadecimal, List.cons_append, List.cons.injEq, true_and] at same
  exact delimited_toDigits (by decide) (by decide) firstStops secondStops same

end Numeral

namespace NameTable

variable {Member : Type} [NameTable Member]

theorem delimited_name {belongs : Char → Bool}
    (belong : ∀ member : Member, (name member).toList.all belongs = true) :
    Delimited (fun member : Member => (name member).toList)
      fun _ rest => Stops belongs rest :=
  .of_class (fun _ _ same => name_injective (String.toList_injective same))
    fun member => List.all_eq_true.mp (belong member)

end NameTable

namespace Kind

/-- Characters that occur in the names of kinds. -/
def inName (character : Char) : Bool :=
  character.isUpper || character.isDigit || character == '_'

theorem delimited_name :
    Delimited (fun kind : Kind => kind.name.toList) fun _ rest => Stops inName rest := by
  apply NameTable.delimited_name
  intro kind
  cases kind <;> decide

theorem not_stops_name_append (kind : Kind) (rest : List Char) :
    ¬ Stops inName (kind.name.toList ++ rest) := by
  have begins : kind.name.toList.head?.any inName = true := by
    cases kind <;> decide
  intro stops
  cases characters : kind.name.toList with
  | nil => simp [characters] at begins
  | cons first others =>
      rw [characters, List.cons_append, stops_cons] at stops
      simp [characters, stops] at begins

end Kind

end GpuOperand

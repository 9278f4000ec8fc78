import GpuOperand.Payload.Summary
import GpuOperand.Proofs.Text.Delimited

/-!
# Reading registers and addresses

The label of a register is delimited by anything that cannot go on with it, and an
address by the bracket that closes it.  A sign tells an offset from the registers in
front of it, and the letters of a register file tell which parts of an address are
present.
-/

namespace GpuOperand

open Numeral

namespace RegFile

/-- The reserved name in parentheses, where there is one. -/
def reservedMark (file : RegFile) (number : RegNum) : List Char :=
  (file.reservedName? number).elim [] fun reserved => '(' :: reserved.toList ++ [')']

theorem toList_label (file : RegFile) (number : RegNum) :
    (file.label number).toList =
      file.stem.toList ++ ((decimal number.toNat).toList ++ file.reservedMark number) := by
  cases reserved : file.reservedName? number <;>
    simp [label, reserved, reservedMark, numberedName]

theorem stem_prefix_label (file : RegFile) (number : RegNum) :
    file.stem.toList <+: (file.label number).toList := by
  rw [toList_label]
  exact List.prefix_append _ _

theorem label_ne_empty (file : RegFile) (number : RegNum) : file.label number ≠ "" := by
  have stem : file.stem.toList ≠ [] := by cases file <;> decide
  intro empty
  have nothing := file.stem_prefix_label number
  rw [empty] at nothing
  exact stem (List.prefix_nil.mp nothing)

theorem isEmpty_label (file : RegFile) (number : RegNum) :
    (file.label number).isEmpty = false := by
  rw [Bool.eq_false_iff, ne_eq, String.isEmpty_iff]
  exact file.label_ne_empty number

theorem delimited_label (file : RegFile) :
    Delimited (fun number => (file.label number).toList)
      fun _ rest => Stops (isDigit 10) rest := by
  have stops (number : RegNum) {rest : List Char} (restStops : Stops (isDigit 10) rest) :
      Stops (isDigit 10) (file.reservedMark number ++ rest) := by
    have parenthesis : isDigit 10 '(' = false := by decide
    cases reserved : file.reservedName? number with
    | none => simpa [reservedMark, reserved] using restStops
    | some name => simpa [reservedMark, reserved] using parenthesis
  intro first second firstRest secondRest firstStops secondStops same
  simp only [toList_label, List.append_assoc] at same
  obtain ⟨numbers, remaining⟩ := delimited_decimal (stops first firstStops)
    (stops second secondStops) (List.append_cancel_left same)
  obtain rfl : first = second := UInt8.toNat_inj.mp numbers
  exact ⟨rfl, List.append_cancel_left remaining⟩

end RegFile

namespace AddressRegister

/-- Characters that occur in the labels of address registers, but for the reserved
names. -/
def inLabel (character : Char) : Bool :=
  character.isAlphanum || character == '_' || character == '.'

def modifierMark (modifier : RegModifier) : List Char :=
  if modifier = .plain then [] else '.' :: (NameTable.name modifier).toList

theorem toList_label (register : AddressRegister) (file : RegFile) :
    (register.label file).toList =
      (file.label register.number).toList ++ modifierMark register.modifier := by
  by_cases plain : register.modifier = .plain <;> simp [label, modifierMark, plain]

theorem stem_prefix_label (register : AddressRegister) (file : RegFile) :
    file.stem.toList <+: (register.label file).toList := by
  rw [toList_label]
  exact (file.stem_prefix_label register.number).trans (List.prefix_append _ _)

theorem isEmpty_label (register : AddressRegister) (file : RegFile) :
    (register.label file).isEmpty = false := by
  by_cases plain : register.modifier = .plain
  · simp [label, plain, RegFile.isEmpty_label]
  · simp [label, plain, RegFile.label_ne_empty]

theorem delimited_modifierMark :
    Delimited modifierMark fun _ rest => Stops inLabel rest := by
  have belong : ∀ modifier : RegModifier,
      (NameTable.name modifier).toList.all inLabel = true := by
    intro modifier
    cases modifier <;> decide
  have dot : ∀ character, (character == '.') = true → inLabel character = true := by
    intro character dot
    simp [inLabel, dot]
  have written : Delimited
      (fun modifier : RegModifier => '.' :: (NameTable.name modifier).toList)
      fun modifier rest => ¬ modifier = .plain ∧ Stops inLabel rest := by
    rintro first second firstRest secondRest ⟨_, firstStops⟩ ⟨_, secondStops⟩ same
    exact NameTable.delimited_name belong firstStops secondStops (List.tail_eq_of_cons_eq same)
  have marked : ∀ modifier : RegModifier,
      ['.'] <+: '.' :: (NameTable.name modifier).toList :=
    fun _ => ⟨_, rfl⟩
  have unique : ∀ ⦃first second : RegModifier⦄, first = .plain → second = .plain →
      first = second := by
    rintro first second rfl rfl
    rfl
  apply (written.unlessAbsent marked unique).mono
  intro modifier rest stops
  split
  · exact not_prefix_of_stops (stops.mono dot)
  · exact stops

theorem delimited_label (file : RegFile) :
    Delimited (fun register : AddressRegister => (register.label file).toList)
      fun _ rest => Stops inLabel rest := by
  have digits : ∀ character, isDigit 10 character = true → inLabel character = true := by
    have each : (digits 10).all inLabel = true := by decide
    intro character digit
    exact List.all_eq_true.mp each character (List.contains_iff_mem.mp digit)
  have stops (modifier : RegModifier) {rest : List Char} (restStops : Stops inLabel rest) :
      Stops (isDigit 10) (modifierMark modifier ++ rest) := by
    have dot : isDigit 10 '.' = false := by decide
    by_cases plain : modifier = .plain
    · simpa [modifierMark, plain] using restStops.mono digits
    · simpa [modifierMark, plain] using dot
  rintro ⟨firstNumber, firstModifier⟩ ⟨secondNumber, secondModifier⟩ firstRest secondRest
    firstStops secondStops same
  simp only [toList_label, List.append_assoc] at same
  obtain ⟨rfl, remaining⟩ := RegFile.delimited_label file (stops firstModifier firstStops)
    (stops secondModifier secondStops) same
  obtain ⟨rfl, rests⟩ := delimited_modifierMark firstStops secondStops remaining
  exact ⟨rfl, rests⟩

end AddressRegister

namespace Payload

/-- What an offset adds to an address; only behind something else does a positive offset
need its sign. -/
def offsetText (joined : Bool) : Option Int32 → List Char
  | none => []
  | some offset =>
      (if offset < 0 then ['-'] else if joined then ['+'] else []) ++
        (hexadecimal offset.toInt.natAbs).toList

theorem toList_withOffset (base : String) (offset : Option Int32) :
    (withOffset base offset).toList = base.toList ++ offsetText (!base.isEmpty) offset := by
  cases offset with
  | none => simp [withOffset, offsetText]
  | some offset =>
      by_cases negative : offset < 0
      · simp [withOffset, offsetText, negative]
      · cases empty : base.isEmpty <;> simp [withOffset, offsetText, negative, empty]

/-- The bracket of an address is closed next. -/
def Closes (rest : List Char) : Prop :=
  rest.head? = some ']'

theorem closes_cons (rest : List Char) : Closes (']' :: rest) :=
  rfl

theorem Closes.stops {belongs : Char → Bool} {rest : List Char} (closes : Closes rest)
    (outside : belongs ']' = false) : Stops belongs rest := by
  intro character next
  rw [closes, Option.mem_some_iff] at next
  rw [← next]
  exact outside

theorem offset_ne_of_closes {joined : Bool} {offset : Int32} {rest other : List Char}
    (closes : Closes other) : offsetText joined (some offset) ++ rest ≠ other := by
  rintro rfl
  by_cases negative : offset < 0
  · simp [Closes, offsetText, negative] at closes
  · cases joined <;> simp [Closes, offsetText, negative] at closes

theorem head?_offsetText_iff (joined : Bool) (offset : Int32) (rest : List Char) :
    (offsetText joined (some offset) ++ rest).head? = some '-' ↔ offset < 0 := by
  by_cases negative : offset < 0
  · simp [offsetText, negative]
  · cases joined <;> simp only [offsetText, negative] <;> simp

/-- A sign and a magnitude determine an offset, the least one included. -/
theorem offset_eq_of_natAbs {first second : Int32}
    (signs : first < 0 ↔ second < 0)
    (magnitudes : first.toInt.natAbs = second.toInt.natAbs) : first = second := by
  rw [Int32.lt_iff_toInt_lt, Int32.lt_iff_toInt_lt] at signs
  have zero : Int32.toInt 0 = 0 := rfl
  rw [zero] at signs
  apply Int32.toInt_inj.mp
  omega

theorem delimited_offsetText (joined : Bool) :
    Delimited (offsetText joined) fun _ rest => Closes rest := by
  have bracket : isDigit 16 ']' = false := by decide
  intro first second firstRest secondRest firstCloses secondCloses same
  cases first with
  | none =>
      cases second with
      | none => exact ⟨rfl, same⟩
      | some second => exact absurd same.symm (offset_ne_of_closes firstCloses)
  | some first =>
      cases second with
      | none => exact absurd same (offset_ne_of_closes secondCloses)
      | some second =>
          have signs : first < 0 ↔ second < 0 := by
            rw [← head?_offsetText_iff joined first firstRest, same, head?_offsetText_iff]
          have magnitudes :
              (hexadecimal first.toInt.natAbs).toList ++ firstRest =
                (hexadecimal second.toInt.natAbs).toList ++ secondRest := by
            simp only [offsetText, signs, List.append_assoc] at same
            exact List.append_cancel_left same
          obtain ⟨absolute, rests⟩ := delimited_hexadecimal (firstCloses.stops bracket)
            (secondCloses.stops bracket) magnitudes
          rw [offset_eq_of_natAbs signs absolute]
          exact ⟨rfl, rests⟩

/-- Where nothing is joined in front of it, an offset begins with a minus sign or a
zero; otherwise with a sign. -/
theorem stops_offsetText {belongs : Char → Bool} {joined : Bool} {offset : Option Int32}
    {rest : List Char} (closes : Closes rest) (minus : belongs '-' = false)
    (positive : belongs (if joined then '+' else '0') = false)
    (bracket : belongs ']' = false) :
    Stops belongs (offsetText joined offset ++ rest) := by
  cases offset with
  | none => exact closes.stops bracket
  | some offset =>
      by_cases negative : offset < 0
      · simpa [offsetText, negative] using minus
      · cases joined <;> simp only [offsetText, negative] <;> simpa using positive

/-- The inside of the bracket behind a constant bank. -/
def bankOffset (register : Option RegNum) (offset : Option Int32) : List Char :=
  (register.elim [] fun number => (RegFile.label .general number).toList) ++
    offsetText register.isSome offset

theorem toList_bankOffset (bank : ConstantBank) :
    (withOffset ((bank.regOffset.map (RegFile.label .general)).getD "")
      bank.immOffset).toList = bankOffset bank.regOffset bank.immOffset := by
  rw [toList_withOffset]
  cases bank.regOffset with
  | none => rfl
  | some number => simp [bankOffset, RegFile.isEmpty_label]

theorem bankOffset_eq_nil_iff {register : Option RegNum} {offset : Option Int32} :
    bankOffset register offset = [] ↔ register = none ∧ offset = none := by
  cases register with
  | none => cases offset <;> simp [bankOffset, offsetText]
  | some number => simp [bankOffset, RegFile.label_ne_empty]

theorem delimited_bankOffset :
    Delimited (fun address : Option RegNum × Option Int32 => bankOffset address.1 address.2)
      fun _ rest => Closes rest := by
  have registers := (RegFile.delimited_label .general).optional
    (fun number => RegFile.stem_prefix_label .general number)
  have follows (register : Option RegNum) (offset : Option Int32) {rest : List Char}
      (closes : Closes rest) :
      register.elim (¬ ['R'] <+: offsetText register.isSome offset ++ rest)
        fun _ => Stops (isDigit 10) (offsetText register.isSome offset ++ rest) := by
    cases register with
    | none =>
        exact not_prefix_of_stops (stops_offsetText closes rfl rfl rfl)
    | some number => exact stops_offsetText closes rfl rfl rfl
  rintro ⟨firstRegister, firstOffset⟩ ⟨secondRegister, secondOffset⟩ firstRest secondRest
    firstCloses secondCloses same
  simp only [bankOffset, List.append_assoc] at same
  obtain ⟨rfl, remaining⟩ := registers (follows firstRegister firstOffset firstCloses)
    (follows secondRegister secondOffset secondCloses) same
  obtain ⟨rfl, rests⟩ := delimited_offsetText _ firstCloses secondCloses remaining
  exact ⟨rfl, rests⟩

/-- The offset of a constant bank in its bracket, if it has one. -/
def bankMark (address : Option RegNum × Option Int32) : List Char :=
  if bankOffset address.1 address.2 = [] then []
  else '[' :: (bankOffset address.1 address.2 ++ [']'])

theorem toList_bankSummary (bank : ConstantBank) :
    (bankSummary bank).toList =
      'c' :: '[' :: ((hexadecimal bank.bank.toNat).toList ++
        ']' :: bankMark (bank.regOffset, bank.immOffset)) := by
  have inside := toList_bankOffset bank
  by_cases empty : (withOffset ((bank.regOffset.map (RegFile.label .general)).getD "")
      bank.immOffset).isEmpty = true
  · have absent : bankOffset bank.regOffset bank.immOffset = [] := by
      rw [← inside, String.isEmpty_iff.mp empty]
      rfl
    simp [bankSummary, bankMark, empty, absent]
  · have present : bankOffset bank.regOffset bank.immOffset ≠ [] := by
      rw [← inside]
      simpa using empty
    simp [bankSummary, bankMark, empty, present, inside]

theorem delimited_bankMark :
    Delimited bankMark fun _ rest => Stops (· == '[') rest := by
  have written : Delimited
      (fun address : Option RegNum × Option Int32 =>
        '[' :: (bankOffset address.1 address.2 ++ [']']))
      fun address rest => ¬ bankOffset address.1 address.2 = [] ∧ Stops (· == '[') rest := by
    intro first second firstRest secondRest _ _ same
    simp only [List.cons_append, List.append_assoc, List.nil_append] at same
    obtain ⟨addresses, closed⟩ := delimited_bankOffset (closes_cons firstRest)
      (closes_cons secondRest) (List.tail_eq_of_cons_eq same)
    exact ⟨addresses, List.tail_eq_of_cons_eq closed⟩
  have marked : ∀ address : Option RegNum × Option Int32,
      ['['] <+: '[' :: (bankOffset address.1 address.2 ++ [']']) :=
    fun _ => ⟨_, rfl⟩
  have unique : ∀ ⦃first second : Option RegNum × Option Int32⦄,
      bankOffset first.1 first.2 = [] → bankOffset second.1 second.2 = [] →
      first = second := by
    intro first second firstEmpty secondEmpty
    obtain ⟨firstRegister, firstOffset⟩ := bankOffset_eq_nil_iff.mp firstEmpty
    obtain ⟨secondRegister, secondOffset⟩ := bankOffset_eq_nil_iff.mp secondEmpty
    exact Prod.ext (firstRegister.trans secondRegister.symm)
      (firstOffset.trans secondOffset.symm)
  apply (written.unlessAbsent marked unique).mono
  intro address rest stops
  split
  · exact not_prefix_of_stops stops
  · exact stops

/-- The uniform register of an address, joined to what stands in front of it. -/
def uniformText (joined : Bool) (uniform : Option AddressRegister) : List Char :=
  uniform.elim [] fun register =>
    (if joined then ['+'] else []) ++ (register.label .uniform).toList

theorem delimited_uniformText (joined : Bool) :
    Delimited (uniformText joined) fun uniform rest =>
      uniform.elim (¬ (if joined then ['+', 'U'] else ['U']) <+: rest)
        fun _ => Stops AddressRegister.inLabel rest := by
  have delimited : Delimited
      (fun register : AddressRegister =>
        (if joined then ['+'] else []) ++ (register.label .uniform).toList)
      fun _ rest => Stops AddressRegister.inLabel rest := by
    intro first second firstRest secondRest firstStops secondStops same
    simp only [List.append_assoc] at same
    exact AddressRegister.delimited_label .uniform firstStops secondStops
      (List.append_cancel_left same)
  apply delimited.optional
  intro register
  obtain ⟨others, label⟩ := register.stem_prefix_label .uniform
  have stem : RegFile.uniform.stem.toList = ['U', 'R'] := rfl
  rw [← label, stem]
  cases joined <;> simp

/-- An address in its bracket, without the bracket. -/
def addressText (base uniform : Option AddressRegister) (offset : Option Int32) : List Char :=
  (base.elim [] fun register => (register.label .general).toList) ++
    (uniformText base.isSome uniform ++ offsetText (base.isSome || uniform.isSome) offset)

theorem isEmpty_addressRegisters (reference : MemoryReference) :
    (addressRegisters reference).isEmpty =
      !(reference.base.isSome || reference.uniformOffset.isSome) := by
  obtain ⟨base, uniform, offset, descriptor⟩ := reference
  cases base <;> cases uniform <;>
    simp [addressRegisters, AddressRegister.isEmpty_label, Bool.eq_false_iff]

theorem toList_addressText (reference : MemoryReference) :
    (withOffset (addressRegisters reference) reference.immOffset).toList =
      addressText reference.base reference.uniformOffset reference.immOffset := by
  rw [toList_withOffset, isEmpty_addressRegisters, Bool.not_not]
  obtain ⟨base, uniform, offset, descriptor⟩ := reference
  cases base <;> cases uniform <;> simp [addressRegisters, addressText, uniformText]

/-- A plus sign that joins an offset is followed by the zero of its base mark. -/
theorem not_prefix_joinedOffset {offset : Option Int32} {rest : List Char}
    (closes : Closes rest) : ¬ ['+', 'U'] <+: offsetText true offset ++ rest := by
  cases offset with
  | none => exact not_prefix_of_stops (closes.stops rfl)
  | some offset =>
      rintro ⟨others, same⟩
      by_cases negative : offset < 0 <;> simp [offsetText, negative] at same

theorem follows_uniformText (joined : Bool) (uniform : Option AddressRegister)
    (offset : Option Int32) {rest : List Char} (closes : Closes rest) :
    uniform.elim
      (¬ (if joined then ['+', 'U'] else ['U']) <+:
        offsetText (joined || uniform.isSome) offset ++ rest)
      fun _ => Stops AddressRegister.inLabel
        (offsetText (joined || uniform.isSome) offset ++ rest) := by
  cases uniform with
  | none =>
      cases joined with
      | false => exact not_prefix_of_stops (stops_offsetText closes rfl rfl rfl)
      | true => exact not_prefix_joinedOffset closes
  | some register =>
      rw [Option.isSome_some, Bool.or_true]
      exact stops_offsetText closes rfl rfl rfl

theorem follows_base (base uniform : Option AddressRegister) (offset : Option Int32)
    {rest : List Char} (closes : Closes rest) :
    base.elim
      (¬ ['R'] <+: uniformText base.isSome uniform ++
        (offsetText (base.isSome || uniform.isSome) offset ++ rest))
      fun _ => Stops AddressRegister.inLabel (uniformText base.isSome uniform ++
        (offsetText (base.isSome || uniform.isSome) offset ++ rest)) := by
  -- A uniform register begins with `U`, or with the plus sign that joins it to a base.
  cases uniform with
  | none =>
      cases base with
      | none => exact not_prefix_of_stops (stops_offsetText closes rfl rfl rfl)
      | some register => exact stops_offsetText closes rfl rfl rfl
  | some register =>
      cases base with
      | none =>
          apply not_prefix_of_stops
          obtain ⟨others, label⟩ := register.stem_prefix_label .uniform
          have stem : RegFile.uniform.stem.toList = ['U', 'R'] := rfl
          simp [uniformText, ← label, stem]
      | some base =>
          have plus : AddressRegister.inLabel '+' = false := by decide
          simpa [uniformText] using plus

theorem delimited_addressText :
    Delimited
      (fun address : Option AddressRegister × Option AddressRegister × Option Int32 =>
        addressText address.1 address.2.1 address.2.2)
      fun _ rest => Closes rest := by
  have bases := (AddressRegister.delimited_label .general).optional
    (fun register => register.stem_prefix_label .general)
  rintro ⟨firstBase, firstUniform, firstOffset⟩ ⟨secondBase, secondUniform, secondOffset⟩
    firstRest secondRest firstCloses secondCloses same
  simp only [addressText, List.append_assoc] at same
  obtain ⟨rfl, remaining⟩ := bases (follows_base firstBase firstUniform firstOffset firstCloses)
    (follows_base secondBase secondUniform secondOffset secondCloses) same
  obtain ⟨rfl, offsets⟩ := delimited_uniformText _
    (follows_uniformText _ firstUniform firstOffset firstCloses)
    (follows_uniformText _ secondUniform secondOffset secondCloses) remaining
  obtain ⟨rfl, rests⟩ := delimited_offsetText _ firstCloses secondCloses offsets
  exact ⟨rfl, rests⟩

/-- What a descriptor adds to the summary of a reference. -/
def descriptorMark (descriptor : Option RegNum) : List Char :=
  descriptor.elim [] fun number => " desc=".toList ++ (RegFile.label .uniform number).toList

theorem toList_referenceSummary (reference : MemoryReference) :
    (referenceSummary reference).toList =
      '[' :: (addressText reference.base reference.uniformOffset reference.immOffset ++
        ']' :: descriptorMark reference.descriptor) := by
  have address := toList_addressText reference
  cases present : reference.descriptor <;>
    simp [referenceSummary, descriptorMark, address, present]

theorem delimited_descriptorMark :
    Delimited descriptorMark fun descriptor rest =>
      descriptor.elim (¬ [' ', 'd'] <+: rest) fun _ => Stops (isDigit 10) rest := by
  have delimited : Delimited
      (fun number => " desc=".toList ++ (RegFile.label .uniform number).toList)
      fun _ rest => Stops (isDigit 10) rest := by
    intro first second firstRest secondRest firstStops secondStops same
    simp only [List.append_assoc] at same
    exact RegFile.delimited_label .uniform firstStops secondStops
      (List.append_cancel_left same)
  apply delimited.optional
  intro number
  have mark : [' ', 'd'] <+: " desc=".toList := by decide
  exact mark.trans (List.prefix_append _ _)

end Payload

end GpuOperand

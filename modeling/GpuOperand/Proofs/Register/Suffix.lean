import GpuOperand.Proofs.NameTable

/-!
# Suffixes that name a modifier

The suffixes of register modifiers and the names in their table are two lists that have to
agree.  A suffix is the name of a modifier, or `U64`, which the table calls `64`; only the
modifier that stands for none has no suffix.  One dot in front of a suffix makes no
difference, and a second one makes it unknown.
-/

namespace GpuOperand

/-- A lookup finds what is listed, if no key is listed twice. -/
theorem lookup_eq_some_iff_mem {Key Value : Type} [BEq Key] [LawfulBEq Key]
    {table : List (Key × Value)} (distinct : (table.map Prod.fst).Nodup)
    {key : Key} {value : Value} :
    table.lookup key = some value ↔ (key, value) ∈ table := by
  constructor
  · intro found
    obtain ⟨earlier, later, rfl, _⟩ := List.lookup_eq_some_iff.mp found
    exact List.mem_append_right earlier List.mem_cons_self
  · intro member
    obtain ⟨earlier, later, rfl⟩ := List.append_of_mem member
    rw [List.map_append, List.map_cons, List.nodup_append] at distinct
    refine List.lookup_eq_some_iff.mpr ⟨earlier, later, rfl, ?_⟩
    intro entry before
    have other : entry.1 ≠ key :=
      distinct.2.2 entry.1 (List.mem_map_of_mem before) key List.mem_cons_self
    exact bne_iff_ne.mpr other.symm

namespace RegModifier

/-- A text names a modifier, other than the one that stands for none, by its name in the
table or by the alias `U64`. -/
def NamedBy (modifier : RegModifier) (text : String) : Prop :=
  modifier ≠ plain ∧
    (NameTable.ofName? RegModifier text = some modifier ∨ text = "U64" ∧ modifier = u64)

variable {modifier : RegModifier} {text : String}

theorem mem_suffixes_iff : (text, modifier) ∈ suffixes ↔ modifier.NamedBy text := by
  rw [NamedBy, NameTable.ofName?_eq_some_iff]
  cases modifier with
  | u64 =>
      -- The only modifier that is listed twice.
      simp [suffixes, NameTable.name, eq_comm, or_comm]
  | _ => simp [suffixes, NameTable.name, eq_comm]

theorem lookup_suffixes_eq_some_iff :
    suffixes.lookup text = some modifier ↔ modifier.NamedBy text := by
  have distinct : (suffixes.map Prod.fst).Nodup := by decide
  rw [lookup_eq_some_iff_mem distinct, mem_suffixes_iff]

theorem lookup_suffixes_of_dot (rest : String) : suffixes.lookup ("." ++ rest) = none := by
  have undotted : ∀ entry ∈ suffixes, entry.1.toList.head? ≠ some '.' := by decide
  rw [List.lookup_eq_none_iff]
  intro entry member
  have differs : "." ++ rest ≠ entry.1 := by
    rintro same
    apply undotted entry member
    rw [← same, String.toList_append]
    rfl
  exact bne_iff_ne.mpr differs

theorem ofSuffix?_dot_append (rest : String) :
    ofSuffix? ("." ++ rest) = suffixes.lookup rest := by
  have dropped : dropDot ("." ++ rest).toList = rest.toList := by
    rw [String.toList_append]
    rfl
  rw [ofSuffix?, dropped, String.ofList_toList]

theorem ofSuffix?_of_undotted (undotted : text.toList.head? ≠ some '.') :
    ofSuffix? text = suffixes.lookup text := by
  have kept : dropDot text.toList = text.toList := by
    unfold dropDot
    split
    · rename_i rest characters
      rw [characters] at undotted
      exact absurd rfl undotted
    · rfl
  rw [ofSuffix?, kept, String.ofList_toList]

theorem ofSuffix?_ne_plain (suffix : String) : ofSuffix? suffix ≠ some plain := by
  intro found
  exact (lookup_suffixes_eq_some_iff.mp found).1 rfl

/-- The suffixes and the name table agree.  A suffix behind one dot, or without any, is
recognised as the modifier that it names, so the dot makes no difference.  No suffix stands
for the absence of a modifier, and nothing behind two dots is recognised. -/
theorem ofSuffix?_inStep :
    (∀ rest modifier, ofSuffix? ("." ++ rest) = some modifier ↔ modifier.NamedBy rest) ∧
      (∀ suffix, suffix.toList.head? ≠ some '.' →
        (∀ modifier, ofSuffix? suffix = some modifier ↔ modifier.NamedBy suffix) ∧
          ofSuffix? ("." ++ suffix) = ofSuffix? suffix) ∧
      (∀ suffix, ofSuffix? suffix ≠ some plain) ∧
      ∀ rest, ofSuffix? (".." ++ rest) = none := by
  refine ⟨?_, ?_, ofSuffix?_ne_plain, ?_⟩
  · intro rest modifier
    rw [ofSuffix?_dot_append, lookup_suffixes_eq_some_iff]
  · intro suffix undotted
    rw [ofSuffix?_dot_append, ofSuffix?_of_undotted undotted]
    exact ⟨fun _ => lookup_suffixes_eq_some_iff, rfl⟩
  · intro rest
    have dots : ".." ++ rest = "." ++ ("." ++ rest) := by
      rw [← String.append_assoc]
      rfl
    rw [dots, ofSuffix?_dot_append, lookup_suffixes_of_dot]

/-- The alias is recognised although the table does not have it. -/
theorem ofSuffix?_inStep_alias :
    NameTable.ofName? RegModifier "U64" = none ∧ "U64".toList.head? ≠ some '.' ∧
      ofSuffix? "U64" = some u64 ∧ ofSuffix? ".U64" = some u64 ∧ ofSuffix? "..U64" = none := by
  obtain ⟨dotted, bare, _, doubled⟩ := ofSuffix?_inStep
  have named : u64.NamedBy "U64" := ⟨by decide, Or.inr ⟨rfl, rfl⟩⟩
  have undotted : "U64".toList.head? ≠ some '.' := by decide
  exact ⟨by decide, undotted, ((bare "U64" undotted).1 u64).mpr named,
    (dotted "U64" u64).mpr named, doubled "U64"⟩

/-- Near misses: a name of the table that is no suffix, and a dot in the wrong place. -/
example : ofSuffix? ".NO_MOD" = none ∧ ofSuffix? "X4." = none ∧ ofSuffix? "." = none := by
  decide

end RegModifier

end GpuOperand

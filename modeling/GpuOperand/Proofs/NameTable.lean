import GpuOperand.Kind
import GpuOperand.MemorySpace
import GpuOperand.Register.Modifier
import Mathlib.Data.List.Nodup

/-!
# Lookups in name tables

A table is read in four ways: from a member to its name and to its ordinal, and back from
either.  The ways back are searches for the first match, and as no name and no member stands
in a table twice, they undo the ways there and find nothing else.  The members of each table
are listed in the order in which they compare.
-/

namespace GpuOperand

namespace NameTable

variable {Member : Type} [NameTable Member] {member : Member} {text : String}

theorem name_injective : Function.Injective (name : Member → String) :=
  fun first second same =>
    List.inj_on_of_nodup_map nodup_names (mem_members first) (mem_members second) same

theorem name_of_ofName? (found : ofName? Member text = some member) : name member = text := by
  have selected := List.find?_some found
  exact eq_of_beq selected

/-- The first member with a name is the only one. -/
theorem ofName?_eq_some_iff : ofName? Member text = some member ↔ name member = text := by
  constructor
  · exact name_of_ofName?
  · rintro rfl
    cases found : ofName? Member (name member) with
    | none =>
        have differs := List.find?_eq_none.mp found member (mem_members member)
        exact absurd (beq_self_eq_true (name member)) differs
    | some other => rw [name_injective (name_of_ofName? found)]

theorem parse_eq_ok_iff : parse Member text = .ok member ↔ name member = text := by
  rw [← ofName?_eq_some_iff, parse]
  cases ofName? Member text <;> simp

theorem parse_eq_error_iff {unknown : UnknownName} :
    parse Member text = .error unknown ↔
      (∀ member : Member, name member ≠ text) ∧ unknown = ⟨typeName Member, text⟩ := by
  have absent : ofName? Member text = none ↔ ∀ member : Member, name member ≠ text := by
    simp only [Option.eq_none_iff_forall_ne_some, ne_eq, ofName?_eq_some_iff]
  rw [← absent, parse]
  cases ofName? Member text <;> simp [eq_comm]

theorem ofOrdinal?_eq_none_iff {position : Nat} :
    ofOrdinal? Member position = none ↔ count Member ≤ position :=
  List.getElem?_eq_none_iff

variable [DecidableEq Member]

theorem getElem?_ordinal (member : Member) :
    (members : List Member)[ordinal member]? = some member :=
  List.getElem?_idxOf (mem_members member)

/-- The first position of a member is the only one. -/
theorem ofOrdinal?_eq_some_iff {position : Nat} :
    ofOrdinal? Member position = some member ↔ ordinal member = position := by
  constructor
  · intro found
    obtain ⟨inside, rfl⟩ := List.getElem?_eq_some_iff.mp found
    exact nodup_members.idxOf_getElem position inside
  · rintro rfl
    exact getElem?_ordinal member

theorem names_ordinal (member : Member) :
    (names Member)[ordinal member]? = some (name member) := by
  rw [names, List.getElem?_map, getElem?_ordinal, Option.map_some]

/-- Numbering the members in the order of the table numbers each by its ordinal. -/
theorem ordinal_eq_of_listed {index : Member → Nat}
    (listed : (members : List Member).map index = List.range (count Member))
    (member : Member) : ordinal member = index member := by
  have inside : ordinal member < count Member :=
    List.idxOf_lt_length_of_mem (mem_members member)
  have numbered : ((members : List Member).map index)[ordinal member]? =
      some (index member) := by
    rw [List.getElem?_map, getElem?_ordinal, Option.map_some]
  rw [listed, List.getElem?_range inside] at numbered
  exact Option.some.inj numbered

/-- A table that is exact in both directions.  A member is found by its own name and by its
own ordinal only, a failed lookup reports the enumeration and the name, and members compare
as their ordinals do. -/
structure Exact (Member : Type) [NameTable Member] [DecidableEq Member] [Ord Member]
    (typeName : String) : Prop where
  byName : ∀ text (member : Member), ofName? Member text = some member ↔ name member = text
  parsed : ∀ text (member : Member), parse Member text = .ok member ↔ name member = text
  unknown : ∀ text unknown, parse Member text = .error unknown ↔
    (∀ member : Member, name member ≠ text) ∧ unknown = ⟨typeName, text⟩
  byOrdinal : ∀ position (member : Member),
    ofOrdinal? Member position = some member ↔ ordinal member = position
  beyond : ∀ position, count Member ≤ position → ofOrdinal? Member position = none
  ordered : ∀ first second : Member,
    compare first second = compare (ordinal first) (ordinal second)
  /-- Parsing a name and indexing the names by an ordinal undo each other. -/
  inverse : ∀ text (member : Member),
    parse Member text = .ok member ↔ (names Member)[ordinal member]? = some text

/-- The table has to list the members in the order in which they compare. -/
theorem exact_of_listed [Ord Member] {index : Member → Nat}
    (derived : ∀ first second : Member,
      compare first second = compare (index first) (index second))
    (listed : (members : List Member).map index = List.range (count Member)) :
    Exact Member (typeName Member) where
  byName _ _ := ofName?_eq_some_iff
  parsed _ _ := parse_eq_ok_iff
  unknown _ _ := parse_eq_error_iff
  byOrdinal _ _ := ofOrdinal?_eq_some_iff
  beyond _ := ofOrdinal?_eq_none_iff.mpr
  ordered first second := by
    rw [derived, ordinal_eq_of_listed listed, ordinal_eq_of_listed listed]
  inverse text member := by
    rw [parse_eq_ok_iff, names_ordinal, Option.some_inj]

/-- The four tables are exact, each under the name of its own enumeration. -/
theorem exact_tables :
    Exact Kind "OperandKind" ∧ Exact RegModifier "RegModifier" ∧
      Exact MemorySpace "MemorySpace" ∧ Exact RegFile "RegFile" := by
  -- Members compare by the positions of their constructors, and each table lists its
  -- constructors in the same order.
  refine ⟨?_, ?_, ?_, ?_⟩
  · exact exact_of_listed (fun _ _ => rfl) (rfl : members.map Kind.ctorIdx = _)
  · exact exact_of_listed (fun _ _ => rfl) (rfl : members.map RegModifier.ctorIdx = _)
  · exact exact_of_listed (fun _ _ => rfl) (rfl : members.map MemorySpace.ctorIdx = _)
  · exact exact_of_listed (fun _ _ => rfl) (rfl : members.map RegFile.ctorIdx = _)

/-- A name in small letters, and one behind a blank, are no names of the table. -/
example :
    parse Kind "reg" = .error ⟨"OperandKind", "reg"⟩ ∧
      parse Kind " REG" = .error ⟨"OperandKind", " REG"⟩ := by
  decide

end NameTable

end GpuOperand

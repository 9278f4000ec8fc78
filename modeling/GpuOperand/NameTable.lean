/-!
# Name tables

A closed enumeration comes with a table: its members in a fixed order, each with
a name of its own.  The position of a member in that order is its ordinal.  All
lookups, by name and by ordinal, are defined once for every enumeration that has
such a table.
-/

namespace GpuOperand

/-- A closed enumeration with its members in ordinal order and a distinct name
for each of them. -/
class NameTable (Member : Type) where
  /-- What the enumeration is called when a lookup in it fails. -/
  typeName : String
  members : List Member
  name : Member → String
  mem_members : ∀ member, member ∈ members
  nodup_members : members.Nodup
  nodup_names : (members.map name).Nodup

/-- The failure of a lookup by name: the enumeration that was searched, and the
name that it does not have. -/
structure UnknownName where
  typeName : String
  name : String
  deriving DecidableEq

/-- The wording of a failed lookup. -/
def UnknownName.message (unknown : UnknownName) : String :=
  "unknown " ++ unknown.typeName ++ " name `" ++ unknown.name ++ "`"

namespace NameTable

variable {Member : Type} [NameTable Member]

/-- The names in ordinal order. -/
def names (Member : Type) [NameTable Member] : List String :=
  (members : List Member).map name

/-- How many members the enumeration has. -/
def count (Member : Type) [NameTable Member] : Nat :=
  (members : List Member).length

/-- The position of a member in the table. -/
def ordinal [DecidableEq Member] (member : Member) : Nat :=
  (members : List Member).idxOf member

/-- The member at a position, if the table reaches that far. -/
def ofOrdinal? (Member : Type) [NameTable Member] (position : Nat) : Option Member :=
  (members : List Member)[position]?

/-- The member with exactly this name, if there is one. -/
def ofName? (Member : Type) [NameTable Member] (text : String) : Option Member :=
  (members : List Member).find? fun member => name member == text

/-- The member with exactly this name, or a report of the name that is not in
the table. -/
def parse (Member : Type) [NameTable Member] (text : String) :
    Except UnknownName Member :=
  match ofName? Member text with
  | some member => .ok member
  | none => .error ⟨typeName Member, text⟩

end NameTable

end GpuOperand

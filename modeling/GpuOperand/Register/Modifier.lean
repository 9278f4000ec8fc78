import GpuOperand.NameTable

/-!
# Register modifiers

A register reference carries at most one modifier: a stride, which multiplies
an address register, or a size, which narrows or widens the access.  Modifiers
are read from the suffixes of a register's property text such as `.reuse.X4`;
the suffix `64` may also be spelled `U64`.
-/

namespace GpuOperand

/-- The stride or size qualifier of a register reference. -/
inductive RegModifier where
  | plain
  | x1
  | x4
  | x8
  | x16
  | u32
  | u64
  deriving DecidableEq, Ord, Inhabited

namespace RegModifier

instance : NameTable RegModifier where
  typeName := "RegModifier"
  members := [.plain, .x1, .x4, .x8, .x16, .u32, .u64]
  name
    | .plain => "NO_MOD"
    | .x1 => "X1"
    | .x4 => "X4"
    | .x8 => "X8"
    | .x16 => "X16"
    | .u32 => "U32"
    | .u64 => "64"
  mem_members modifier := by cases modifier <;> decide
  nodup_members := by decide
  nodup_names := by decide

/-- The address multiplier of a stride modifier. -/
def stride? : RegModifier → Option UInt32
  | x1 => some 1
  | x4 => some 4
  | x8 => some 8
  | x16 => some 16
  | plain | u32 | u64 => none

/-- The access width of a size modifier. -/
def widthBytes? : RegModifier → Option UInt32
  | u32 => some 4
  | u64 => some 8
  | plain | x1 | x4 | x8 | x16 => none

/-- Whether the modifier scales an address register. -/
def isStride (modifier : RegModifier) : Bool :=
  modifier.stride?.isSome

/-- Whether the modifier sets an access width. -/
def isSize (modifier : RegModifier) : Bool :=
  modifier.widthBytes?.isSome

/-- The suffixes that name a modifier, without their dot. -/
def suffixes : List (String × RegModifier) :=
  [("X1", x1), ("X4", x4), ("X8", x8), ("X16", x16),
    ("U32", u32), ("U64", u64), ("64", u64)]

/-- The text behind one leading dot; text without one is left alone. -/
def dropDot (suffix : List Char) : List Char :=
  match suffix with
  | '.' :: rest => rest
  | _ => suffix

/-- Recognise one suffix, with or without its leading dot. -/
def ofSuffix? (suffix : String) : Option RegModifier :=
  suffixes.lookup (String.ofList (dropDot suffix.toList))

/-- Cut characters at the dots.  There is always one more segment than there
are dots, so segments may be empty. -/
def segments : List Char → List (List Char)
  | [] => [[]]
  | character :: rest =>
      if character = '.' then
        [] :: segments rest
      else
        match segments rest with
        | [] => [[character]]
        | first :: others => (character :: first) :: others

/-- The modifier named by the first recognised segment of a property text. -/
def ofProperty (property : String) : RegModifier :=
  ((segments property.toList).findSome? fun segment =>
    ofSuffix? (String.ofList segment)).getD plain

end RegModifier

end GpuOperand

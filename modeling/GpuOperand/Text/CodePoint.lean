/-!
# Sets of code points

A property of characters is a table of closed ranges of code points, in ascending
order.
-/

namespace GpuOperand

namespace CodePoint

/-- Whether a code point lies in one of the closed ranges. -/
def isIn (ranges : List (Nat × Nat)) (codePoint : Nat) : Bool :=
  ranges.any fun range => range.1 ≤ codePoint && codePoint ≤ range.2

end CodePoint

end GpuOperand

import GpuOperand.Operand.Basic
import GpuOperand.Payload.Summary

/-!
# Summaries of operands

The summary of an operand names its kind, quotes its text, summarises its
payload, and mentions a cut text, flags and a width only where there are any, as
in `PRED "!PT" P7(PT) [not]`.
-/

namespace GpuOperand

/-- The names of the flags that are set, in brackets. -/
def Flags.summary (flags : Flags) : String :=
  "[" ++
    ",".intercalate
      ((if flags.negated then ["neg"] else []) ++
        (if flags.inverted then ["not"] else []) ++
        (if flags.absolute then ["abs"] else [])) ++
    "]"

namespace Operand

/-- The kind, the quoted text and the payload of an operand, then whether its text
was cut, its flags and its width. -/
def summary (operand : Operand) : String :=
  operand.kind.name ++ " " ++ quoted operand.text.value ++ " " ++ operand.payload.summary ++
    (if operand.text.truncated then " (truncated)" else "") ++
    (if operand.flags.isEmpty then "" else " " ++ operand.flags.summary) ++
    (if operand.sizeBytes = 0 then ""
      else " nbytes=" ++ Numeral.decimal operand.sizeBytes.toNat)

end Operand

end GpuOperand

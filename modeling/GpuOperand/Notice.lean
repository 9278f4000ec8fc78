import GpuOperand.Error
import GpuOperand.MemorySpace

/-!
# Notices

Some operations report what they did beside their result: a text was cut, a list
of operands was refused, or a list was accepted although it carries more memory
references than its memory space expects.
-/

namespace GpuOperand

/-- How urgent a notice is. -/
inductive NoticeLevel where
  | warning
  | debug
  deriving DecidableEq

/-- Something worth reporting beside a result. -/
inductive Notice where
  /-- A text that had this fault was cut instead of refused. -/
  | textTruncated (fault : OperandError)
  | listRejected (space : MemorySpace) (kinds : List Kind)
  | memRefsExceedSpace (space : MemorySpace) (found : Nat)
  deriving DecidableEq

namespace Notice

def level : Notice → NoticeLevel
  | textTruncated _ => .warning
  | listRejected .. | memRefsExceedSpace .. => .debug

def message : Notice → String
  | textTruncated fault => fault.message ++ "; truncating"
  | listRejected space kinds =>
      "rejecting " ++ NameTable.name space ++ " operand list [" ++
        ", ".intercalate (kinds.map Kind.name) ++ "]"
  | memRefsExceedSpace space found =>
      NameTable.name space ++ " instruction carries " ++ Numeral.decimal found ++
        " memory references, expected at most " ++ Numeral.decimal space.maxMemRefs

end Notice

end GpuOperand

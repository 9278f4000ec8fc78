import GpuOperand.Kind

/-!
# Errors

What can be wrong with one operand, and with the operands of one instruction.
Every error has a code, and its message starts with the label of that code.
-/

namespace GpuOperand

/-- The classes of errors. -/
inductive ErrorCode where
  | invalidOperand
  | kindMismatch
  | textTooLong
  | tooManyMemRefs
  deriving DecidableEq

namespace ErrorCode

def label : ErrorCode → String
  | invalidOperand => "OPD1000"
  | kindMismatch => "OPD1001"
  | textTooLong => "OPD1002"
  | tooManyMemRefs => "INS2000"

def number : ErrorCode → Nat
  | invalidOperand => 1000
  | kindMismatch => 1001
  | textTooLong => 1002
  | tooManyMemRefs => 2000

end ErrorCode

/-- What is wrong with one operand. -/
inductive OperandError where
  /-- A number field of an operand of this kind exceeds its largest value. -/
  | outOfRange (kind : Kind) (field : String) (value max : UInt32)
  /-- An operand was built without anything to carry, or an offset was given
  before the constant bank that it belongs to. -/
  | missingPayload
  | kindMismatch (expected found : Kind)
  /-- A text field has more characters than its limit. -/
  | textTooLong (field : String) (length limit : Nat)
  deriving DecidableEq

namespace OperandError

def code : OperandError → ErrorCode
  | outOfRange .. | missingPayload => .invalidOperand
  | kindMismatch .. => .kindMismatch
  | textTooLong .. => .textTooLong

/-- The message behind the label of the error's code. -/
def detail : OperandError → String
  | outOfRange kind field value max =>
      "invalid operand: " ++ kind.name ++ " field `" ++ field ++ "` is " ++
        Numeral.decimal value.toNat ++ ", allowed range is 0..=" ++
        Numeral.decimal max.toNat
  | missingPayload => "invalid operand: operand has no payload"
  | kindMismatch expected found =>
      "kind mismatch: expected `" ++ expected.name ++ "`, found `" ++ found.name ++ "`"
  | textTooLong field length limit =>
      "`" ++ field ++ "` is " ++ Numeral.decimal length ++
        " characters long, limit is " ++ Numeral.decimal limit

def message (error : OperandError) : String :=
  error.code.label ++ ": " ++ error.detail

end OperandError

/-- What is wrong with the operands of one instruction. -/
inductive OperandListError where
  | tooManyMemRefs (found limit : Nat)
  /-- One of the operands could not be built. -/
  | operand (cause : OperandError)
  deriving DecidableEq

namespace OperandListError

def code : OperandListError → ErrorCode
  | tooManyMemRefs .. => .tooManyMemRefs
  | operand cause => cause.code

/-- The error of a single operand that lies behind this one. -/
def cause? : OperandListError → Option OperandError
  | tooManyMemRefs .. => none
  | operand cause => some cause

def message : OperandListError → String
  | tooManyMemRefs found limit =>
      ErrorCode.tooManyMemRefs.label ++ ": instruction has " ++ Numeral.decimal found ++
        " memory references, at most " ++ Numeral.decimal limit ++ " allowed"
  | operand cause => cause.message

end OperandListError

end GpuOperand

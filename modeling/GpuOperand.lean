import GpuOperand.Operand.Summary
import GpuOperand.OperandList.Basic
import GpuOperand.Proofs.Operand.WellFormed
import GpuOperand.Proofs.Draft.Run
import GpuOperand.Proofs.Draft.Spelling
import GpuOperand.Proofs.Draft.Checkpoint
import GpuOperand.Proofs.Operand.Lineage
import GpuOperand.Proofs.Session
import GpuOperand.Proofs.Payload.Numbers
import GpuOperand.Proofs.Draft.Failure
import GpuOperand.Proofs.OperandList.Rebuild
import GpuOperand.Proofs.Payload.Summary
import GpuOperand.Proofs.Operand.Summary
import GpuOperand.Proofs.Operand.OneLine
import GpuOperand.Proofs.Draft.Independence
import GpuOperand.Proofs.Draft.LastWrite
import GpuOperand.Proofs.Operand.Policy
import GpuOperand.Proofs.OperandList.InOrder
import GpuOperand.Proofs.OperandList.Histogram
import GpuOperand.Proofs.OperandList.Views
import GpuOperand.Proofs.Payload.Limits
import GpuOperand.Proofs.OperandList.Acceptance
import GpuOperand.Proofs.Observation
import GpuOperand.Proofs.ErrorMessage
import GpuOperand.Proofs.Text.Cut
import GpuOperand.Proofs.Register.Suffix
import GpuOperand.Proofs.Register.Property

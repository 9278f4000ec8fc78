import GpuOperand.Notice

/-!
# Logged results

A logged result is an outcome, a value or an error, together with the notices
given on the way to it.  Running one step after another keeps the notices of
both in order, and a failed step ends the run with the notices given so far.
-/

namespace GpuOperand

/-- A value or an error, with the notices given on the way to it. -/
structure Logged (Error Value : Type) where
  outcome : Except Error Value
  notices : List Notice

namespace Logged

variable {Error Value Result : Type}

/-- Success without a notice. -/
def ok (value : Value) : Logged Error Value :=
  ⟨.ok value, []⟩

/-- Failure without a notice. -/
def fail (error : Error) : Logged Error Value :=
  ⟨.error error, []⟩

/-- Add notices behind those already given. -/
def andNote (logged : Logged Error Value) (further : List Notice) :
    Logged Error Value :=
  ⟨logged.outcome, logged.notices ++ further⟩

/-- Run a step on the value of a success. -/
def bind (logged : Logged Error Value) (step : Value → Logged Error Result) :
    Logged Error Result :=
  match logged.outcome with
  | .ok value =>
      let next := step value
      ⟨next.outcome, logged.notices ++ next.notices⟩
  | .error error => ⟨.error error, logged.notices⟩

def map (transform : Value → Result) (logged : Logged Error Value) :
    Logged Error Result :=
  ⟨logged.outcome.map transform, logged.notices⟩

def mapError {Other : Type} (transform : Error → Other) (logged : Logged Error Value) :
    Logged Other Value :=
  ⟨logged.outcome.mapError transform, logged.notices⟩

@[simp]
theorem bind_ok (value : Value) (step : Value → Logged Error Result) :
    (ok value).bind step = step value := by
  simp [bind, ok]

@[simp]
theorem bind_fail (error : Error) (step : Value → Logged Error Result) :
    (fail error : Logged Error Value).bind step = fail error :=
  rfl

@[simp]
theorem map_ok (transform : Value → Result) (value : Value) :
    (ok value : Logged Error Value).map transform = ok (transform value) :=
  rfl

@[simp]
theorem map_fail (transform : Value → Result) (error : Error) :
    (fail error : Logged Error Value).map transform = fail error :=
  rfl

end Logged

end GpuOperand

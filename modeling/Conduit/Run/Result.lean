import Conduit.Decode
import Conduit.Fault
import Conduit.Number.Arithmetic
import Conduit.Value.Compare
import Conduit.Value.Shown

/-!
# Results of runs

What is known of a run and of its steps when it is over.

* `RunState`, `StepStatus` — how far a run or a step has come;
* `StepResult` — the outcome of a step, with `StepResult.duration`;
* `RunResult` — the outcome of a run, with `RunResult.flaw?`.
-/

namespace Conduit

/-- How far a run has come. -/
inductive RunState where
  /-- No step has begun. -/
  | pending
  /-- Steps have begun. -/
  | running
  /-- All steps succeeded. -/
  | completed
  /-- Something went wrong. -/
  | failed
  /-- The run was cancelled. -/
  | cancelled
deriving DecidableEq, Inhabited

namespace RunState

/-- The word for a state. -/
def name : RunState → String
  | pending => "pending"
  | running => "running"
  | completed => "completed"
  | failed => "failed"
  | cancelled => "cancelled"

/-- All states. -/
def all : List RunState := [pending, running, completed, failed, cancelled]

/-- Whether a run in this state is over. -/
def isTerminal : RunState → Bool
  | completed => true
  | failed => true
  | cancelled => true
  | _ => false

/-- The state that a value names. -/
def ofValue (v : Value) : Except Fault RunState :=
  match all.find? fun s => v.equals (.str s.name) with
  | some s => .ok s
  | none => .error (.notAmong v.shown "PipelineState")

end RunState

/-- How far a step has come. -/
inductive StepStatus where
  /-- The step has not begun. -/
  | pending
  /-- The step has begun. -/
  | running
  /-- The step gave an output. -/
  | success
  /-- Something went wrong. -/
  | error
  /-- The step was cancelled. -/
  | cancelled
deriving DecidableEq, Inhabited

namespace StepStatus

/-- The word for a status. -/
def name : StepStatus → String
  | pending => "pending"
  | running => "running"
  | success => "success"
  | error => "error"
  | cancelled => "cancelled"

/-- All statuses. -/
def all : List StepStatus := [pending, running, success, error, cancelled]

end StepStatus

/-- Milliseconds of a number of microseconds. -/
def millis (micros : Int) : Double :=
  (Double.ofRatio (decide (micros < 0)) micros.natAbs 1000000).mul (Double.ofRatio false 1000 1)

/-- The outcome of a step. -/
structure StepResult where
  /-- The step. -/
  step : String
  /-- How far it came. -/
  status : StepStatus
  /-- What it gave. -/
  output : Value := .null
  /-- What went wrong. -/
  error : Option String := none
  /-- The code of what went wrong. -/
  errorCode : Option String := none
  /-- When it began. -/
  startedAt : Moment
  /-- When it ended. -/
  endedAt : Moment
deriving DecidableEq, Inhabited

/-- The outcome of a run. -/
structure RunResult where
  /-- Whether all steps succeeded. -/
  success : Bool
  /-- How far the run came. -/
  state : RunState
  /-- What the run gave. -/
  output : Value := .null
  /-- What went wrong. -/
  error : Option String := none
  /-- The code of what went wrong. -/
  errorCode : Option String := none
  /-- The outcomes of the steps, in the order of the pipeline. -/
  steps : List StepResult := []
deriving DecidableEq, Inhabited

open Decode

namespace StepResult

/-- The milliseconds that a step took. -/
def duration (r : StepResult) : Except Fault Double :=
  match r.startedAt.elapsed? r.endedAt with
  | some micros => .ok (millis micros)
  | none => .error .mixedMoments

/-- Decodes the outcome of a step. -/
def decode (m : Members) : Decoded StepResult :=
  StepResult.mk <$> field m "step_id" text
    <*> field m "status" (word .notWord (StepStatus.all.map fun s => (s.name, s)))
    <*> optional m "output" .null any
    <*> optional m "error" none (nullable text)
    <*> optional m "error_code" none (nullable text)
    <*> field m "started_at" moment
    <*> field m "ended_at" moment

/-- The members of the outcome of a step. -/
def encode (r : StepResult) : Value :=
  .object
    [("step_id", .str r.step), ("status", .str r.status.name), ("output", r.output),
     ("error", .ofText? r.error), ("error_code", .ofText? r.errorCode),
     ("started_at", .str r.startedAt.documentText), ("ended_at", .str r.endedAt.documentText)]

end StepResult

namespace RunResult

/-- The outcome of a step. -/
def step? (r : RunResult) (id : String) : Option StepResult := r.steps.find? fun s => s.step == id

/-- Decodes the outcome of a run. -/
def decode (m : Members) : Decoded RunResult :=
  RunResult.mk <$> field m "success" flag
    <*> field m "state" (word .notWord (RunState.all.map fun s => (s.name, s)))
    <*> optional m "output" .null any
    <*> optional m "error" none (nullable text)
    <*> optional m "error_code" none (nullable text)
    <*> optional m "step_results" [] (list (record .notRecord StepResult.decode))

/-- The members of the outcome of a run. -/
def members (r : RunResult) : Members :=
  [("success", .bool r.success), ("state", .str r.state.name), ("output", r.output),
   ("error", .ofText? r.error), ("error_code", .ofText? r.errorCode),
   ("step_results", .list (r.steps.map StepResult.encode))]

/-- The members of the outcome of a run, as an object. -/
def encode (r : RunResult) : Value := .object r.members

/-- What keeps the outcome of a run out of a document. -/
def flaw? (r : RunResult) : Option Value.DocumentFlaw :=
  r.output.documentFlaw? Value.documentDepth
    <|> r.steps.findSome? fun s => s.output.documentFlaw? Value.documentDepth

end RunResult

end Conduit

import Conduit.Run.Event
import Conduit.Run.Executor

/-!
# Steps in flight

A step in flight goes through stages: its start is reported to the listener, its connector is
called, and its end is reported. It may be interrupted at any stage.

* `Stage`, `Flight` — a step in flight;
* `Report` — what became of a step;
* `Trouble.stepFailure` — trouble of a step as a failure.
-/

namespace Conduit

/-- What became of a step. -/
structure Report where
  /-- The step. -/
  item : PipelineStep
  /-- Whether it gave an output. -/
  status : StepStatus
  /-- What it gave. -/
  output : Output := .value .null
  /-- What went wrong. -/
  failure : Option Failure := none
  /-- When it began, in microseconds. -/
  startedAt : Nat
  /-- When it ended, in microseconds. -/
  endedAt : Nat
deriving DecidableEq, Inhabited

namespace Report

/-- How long the step took. -/
def micros (r : Report) : Nat := r.endedAt - r.startedAt

/-- The report as a result; `moment` is the moment of a reading of the clock. -/
def result (r : Report) (moment : Nat → Moment) (environment : Environment) : StepResult where
  step := r.item.step.id
  status := r.status
  output := r.output.read environment
  error := r.failure.map (·.message)
  errorCode := r.failure.map (·.kind.code)
  startedAt := moment r.startedAt
  endedAt := moment r.endedAt

/-- Puts a report in its place in the order of the pipeline. -/
def insert (r : Report) : List Report → List Report
  | [] => [r]
  | other :: rest =>
    if other.item.index ≤ r.item.index then other :: insert r rest else r :: other :: rest

/-- Reports in the order of the pipeline. -/
def sorted (reports : List Report) : List Report := reports.foldl (fun acc r => r.insert acc) []

end Report

/-- How far a step in flight has come. -/
inductive Stage where
  /-- It has not begun. -/
  | queued
  /-- Its start is being reported; `givenUp` tells that the listener gives the step up over that. -/
  | opening (givenUp : Bool)
  /-- Its connector is about to be called. -/
  | entering (input : Value) (connector : Connector)
  /-- Its connector is at work; `overdue` tells that the time limit comes first. -/
  | calling (call : Call) (overdue : Bool)
  /-- Its end is being reported; `givenUp` tells that the listener gives the step up over that. -/
  | closing (report : Report) (givenUp : Bool)
  /-- It is over; an interrupted report is lost. -/
  | ended (report : Option Report)
deriving Inhabited

namespace Stage

/-- Whether the step is over. -/
def isEnded : Stage → Bool
  | ended _ => true
  | _ => false

/-- How many stages are left. -/
def left : Stage → Nat
  | queued => 5
  | opening _ => 4
  | entering _ _ => 3
  | calling _ _ => 2
  | closing _ _ => 1
  | ended _ => 0

end Stage

/-- A step in flight. -/
structure Flight where
  /-- The step. -/
  item : PipelineStep
  /-- When it began, in microseconds. -/
  startedAt : Nat
  /-- How far it has come. -/
  stage : Stage := .queued
  /-- When it goes on, if it waits for that. -/
  due : Option Nat := none
deriving Inhabited

namespace Flight

/-- The id of the step. -/
def id (f : Flight) : String := f.item.step.id

/-- The report of a step that succeeds now. -/
def succeed (f : Flight) (now : Nat) (output : Output) : Report where
  item := f.item
  status := .success
  output := output
  startedAt := f.startedAt
  endedAt := now

/-- The report of a step that stops now. -/
def stop (f : Flight) (now : Nat) (status : StepStatus) (failure : Failure) : Report where
  item := f.item
  status := status
  failure := some failure
  startedAt := f.startedAt
  endedAt := now

end Flight

/-! ## Failures of steps -/

/-- A failure of the connector of a step. -/
def connectorFailure (step message : String) : Failure where
  kind := .connector
  message := message
  details := [("step_id", .str step)]

/-- Trouble of a step as a failure: what is no failure yet becomes one of the connector. -/
def Trouble.stepFailure (step : String) : Trouble → Failure
  | .failure f => f
  | t => connectorFailure step t.report

/-- The failure of a step whose output cannot be copied. -/
def uncopyableFailure (step : String) (fault : Fault) : Failure :=
  connectorFailure step
    ("Step '" ++ step ++ "' returned an output that cannot be copied: " ++ fault.report)

/-- The failure of a step that took too long. -/
def stepTimeoutFailure (step : String) (limit : TimeLimit) : Failure where
  kind := .stepTimeout
  message := "Step '" ++ step ++ "' exceeded its " ++ limit.text ++ "s timeout"
  details := [("step_id", .str step), ("timeout", limit.given)]

/-- The failure of a run that took too long. -/
def timeoutFailure (limit : TimeLimit) : Failure where
  kind := .pipelineTimeout
  message := "Workflow exceeded its " ++ limit.text ++ "s timeout"
  details := [("timeout", limit.given)]

/-- The failure of a step that was cancelled. -/
def stepCancelled (step : String) : Failure where
  kind := .cancellation
  message := "Step '" ++ step ++ "' cancelled"

/-- The failure of a run that was cancelled. -/
def runCancelled : Failure where
  kind := .cancellation
  message := "Execution cancelled"

end Conduit

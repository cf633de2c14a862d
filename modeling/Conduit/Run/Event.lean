import Conduit.Connector.Basic
import Conduit.Pipeline.Compile
import Conduit.Run.Result
import Conduit.Value.Document

/-!
# Events of runs

What a run tells its listener.

* `RunEvent` — the events, with `RunEvent.name` and `RunEvent.data`;
* `Delivery` — how long a listener takes over them, where it fails, and where it gives up a step;
* `Sighting` — an event as a listener saw it.
-/

namespace Conduit

/-- What a run tells its listener. -/
inductive RunEvent where
  /-- A step has begun. -/
  | started (step : PipelineStep)
  /-- A step gave an output after a number of microseconds. -/
  | completed (step : PipelineStep) (output : Value) (micros : Nat)
  /-- A step failed or was cancelled after a number of microseconds. -/
  | stopped (step : PipelineStep) (status : StepStatus) (failure : Failure) (micros : Nat)
  /-- The run is over. -/
  | done (result : RunResult)
deriving DecidableEq, Inhabited

namespace RunEvent

/-- The word for an event. -/
def name : RunEvent → String
  | started _ => "step_start"
  | completed _ _ _ => "step_complete"
  | stopped _ _ _ _ => "step_error"
  | done _ => "done"

/-- The step that an event is about. -/
def step? : RunEvent → Option String
  | started s => some s.step.id
  | completed s _ _ => some s.step.id
  | stopped s _ _ _ => some s.step.id
  | done _ => none

/-- The step and its name. -/
def stepMembers (s : PipelineStep) : Members :=
  [("step_id", .str s.step.id), ("step_name", .str s.step.displayName)]

/-- The members of a result: those of its document, or as they are when it has none. -/
def resultMembers (result : RunResult) : Members :=
  match result.flaw? with
  | none => Value.finiteMembers result.members
  | some _ => result.members

/-- What an event of a run holds. -/
def data (run : String) (e : RunEvent) : Members :=
  ("run_id", .str run) ::
    match e with
    | started s => stepMembers s ++ [("index", .ofNat s.index)]
    | completed s output micros =>
      stepMembers s ++ [("output", output), ("duration_ms", .float (millis micros))]
    | stopped s status failure micros =>
      stepMembers s
        ++ [("status", .str status.name), ("error", .str failure.message),
            ("code", .str failure.kind.code), ("duration_ms", .float (millis micros))]
    | done result => resultMembers result

end RunEvent

/-- How a listener takes events. Trouble that cannot even be put into words for the log is left out.
-/
structure Delivery where
  /-- How long the listener takes over an event. -/
  wait : RunEvent → Wait := fun _ => .none
  /-- What the listener fails with over an event. -/
  trouble? : RunEvent → Option Trouble := fun _ => none
deriving Inhabited

/-- Whether the listener gives up the step that an event is about. Over the end of a run there is no
step to give up, and it is the result that is lost. -/
def Delivery.givesUp (d : Delivery) (e : RunEvent) : Bool :=
  e.step?.isSome && decide (d.trouble? e = some .cancelled)

/-- Whether the listener gives up over the end of a run with a result. -/
def Delivery.givesUpEnd (d : Delivery) (result : RunResult) : Bool :=
  decide (d.trouble? (.done result) = some .cancelled)

/-- A listener that takes the same time over every event. -/
instance : Coe Wait Delivery := ⟨fun wait => { wait := fun _ => wait }⟩

/-- An event as a listener saw it: with the state of the run and the steps in progress then. -/
structure Sighting where
  /-- The event. -/
  event : RunEvent
  /-- When it was seen, in microseconds. -/
  time : Nat
  /-- The state of the run. -/
  state : RunState
  /-- The steps in progress. -/
  current : List String
  /-- What the listener failed with over the event, which is logged and goes no further unless it
  gives something up. -/
  trouble : Option Trouble := none
deriving DecidableEq, Inhabited

end Conduit

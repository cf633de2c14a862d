import Conduit.Run.Clock

/-!
# Records of runs

What an engine keeps of a run, while it is in progress and afterwards.

* `RunRecord` — a run with the workflow that it is a run of;
* `RunRecord.encode` — the record for show.
-/

namespace Conduit

/-- What an engine keeps of a run. -/
structure RunRecord where
  /-- The workflow. -/
  workflow : String
  /-- When the run was made, in microseconds. -/
  createdAt : Nat
  /-- The run. -/
  run : Run
  /-- When the run ended, in microseconds. -/
  completedAt? : Option Nat := none
  /-- Whether the caller has given up waiting for the run. -/
  abandoned : Bool := false
  /-- Whether the engine does not know the run any more. -/
  forgotten : Bool := false
deriving Inhabited

namespace RunRecord

/-- The id of the run. -/
def id (r : RunRecord) : String := r.run.plan.id

/-- Whether the run is in progress. -/
def isActive (r : RunRecord) : Bool := !r.run.isOver

/-- The result of the run. -/
def result? (r : RunRecord) : Option RunResult :=
  match r.run.phase with
  | .over (.finished result) _ => some result
  | _ => none

/-- The record for show. -/
def encode (r : RunRecord) : Value :=
  let moment (micros : Nat) : Value := .str (r.run.plan.moment micros).documentText
  .object
    [("run_id", .str r.id), ("workflow_id", .str r.workflow), ("state", .str r.run.state.name),
     ("current_steps", .ofTexts r.run.current),
     ("result", (r.result?.map RunResult.encode).getD .null),
     ("created_at", moment r.createdAt),
     ("completed_at", (r.completedAt?.map moment).getD .null)]

/-- Gives up waiting for the run. A run that is read as a stream is cancelled and seen to its end;
any other is left at once. -/
def leave (r : RunRecord) : RunRecord :=
  match r.run.reader with
  | some reader =>
    { r with run := { r.run.cancel with reader := some { reader with closed := true } } }
  | none => { r with run := r.run.abandon }

/-- Whether a caller who gave up is still to be heeded. -/
def isLeaving (r : RunRecord) : Bool :=
  r.abandoned && r.isActive
    && match r.run.reader with
      | some reader => !reader.closed
      | none => true

end RunRecord

end Conduit

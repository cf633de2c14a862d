import Conduit.Connector.Basic

/-!
# The outputs of a run

Outputs by step. An output is recorded once and never changed.

* `Outputs.record` — records an output;
* `Outputs.get?`, `Outputs.read` — looks it up, or what it shows now.
-/

namespace Conduit

/-- Outputs by step, in the order in which they were recorded. -/
structure Outputs where
  /-- The outputs. -/
  entries : List (String × Output) := []
deriving DecidableEq, Inhabited

namespace Outputs

/-- The output of a step. -/
def get? (o : Outputs) (step : String) : Option Output := o.entries.lookup step

/-- Whether a step has an output. -/
def has (o : Outputs) (step : String) : Bool := (o.get? step).isSome

/-- Records the output of a step that has none yet. -/
def record (o : Outputs) (step : String) (output : Output) : Except Fault Outputs :=
  if o.has step then .error (.recordedTwice step)
  else .ok { entries := o.entries ++ [(step, output)] }

/-- The steps with an output. -/
def steps (o : Outputs) : List String := o.entries.map (·.1)

/-- The number of outputs. -/
def size (o : Outputs) : Nat := o.entries.length

/-- What the output of a step shows now. -/
def read (o : Outputs) (environment : Environment) (step : String) : Option Value :=
  (o.get? step).map (Output.read environment)

end Outputs

end Conduit

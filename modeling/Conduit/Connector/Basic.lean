import Conduit.Failure
import Conduit.Run.Context
import Conduit.Table.Store
import Conduit.Workflow.Definition

/-!
# Connectors

A connector carries out the steps of one kind. Calling it gives a `Call`: how long the caller has to
wait, and what the answer is then. What connectors act on is the `Environment`.

* `Environment` — tables, the log of remote actions, the list that functions share;
* `Output` — what a step gives back;
* `Wait`, `Call` — a call in progress;
* `Connector` — what carries out a step.
-/

namespace Conduit

/-- A request to a remote action service. -/
structure ActionRequest where
  /-- The action. -/
  action : String
  /-- The arguments of the action. -/
  arguments : Members
  /-- The connected account that is used. -/
  account : String
  /-- On whose behalf the action is made. -/
  entity : Option String
deriving DecidableEq, Inhabited

/-- The members of a request. -/
def ActionRequest.encode (r : ActionRequest) : Value :=
  .object
    [("action_id", .str r.action), ("arguments", .object r.arguments), ("account", .str r.account),
     ("entity", .ofText? r.entity)]

/-- What connectors act on. -/
structure Environment where
  /-- The tables. -/
  tables : TableStore := {}
  /-- The remote actions that were asked for, in order. -/
  requests : List ActionRequest := []
  /-- The list that functions can share. -/
  shared : List Value := []
  /-- Whether a function asked for the run to be cancelled. -/
  stopRequested : Bool := false
deriving DecidableEq, Inhabited

/-- What a step gives back. -/
inductive Output where
  /-- A value of its own. -/
  | value (v : Value)
  /-- The list that functions share: it shows what is added to it later. -/
  | shared
  /-- Something that cannot be copied, with the fault that an attempt meets. -/
  | uncopyable (fault : Fault)
deriving DecidableEq, Inhabited

/-- The value that an output shows now. -/
def Output.read (environment : Environment) : Output → Value
  | value v => v
  | shared => .list environment.shared
  | uncopyable _ => .null

/-- How long a call takes. -/
inductive Wait where
  /-- No time, and nothing happens meanwhile. -/
  | none
  /-- No time, but what is ready goes first. -/
  | turn
  /-- A number of microseconds. -/
  | time (micros : Nat)
deriving DecidableEq, Inhabited

/-- A call in progress: how long it takes, and what it does and answers then. An interruption ends it
before that. -/
structure Call where
  /-- How long the call takes. -/
  wait : Wait
  /-- What the call does to the environment at its end, and its answer. -/
  finish : Environment → Environment × Except Trouble Output

/-- A call that is answered at once. -/
def Call.answered (answer : Except Trouble Output) : Call where
  wait := .none
  finish := fun environment => (environment, answer)

instance : Inhabited Call := ⟨Call.answered (.ok (.value .null))⟩

/-- What carries out the steps of one kind. -/
structure Connector where
  /-- What the connector is called in listings. -/
  name : String
  /-- The kind of steps that it carries out. -/
  kind : StepKind
  /-- Whether a call may be interrupted when the run is cancelled. -/
  cancellable : Bool := false
  /-- Begins a call: what happens at once, and what is left to wait for. -/
  call : Step → Value → Context → Environment → Environment × Call

instance : Inhabited Connector :=
  ⟨⟨"", .controlFlow, false, fun _ v _ e => (e, Call.answered (.ok (.value v)))⟩⟩

/-- A connector that answers at once and leaves the environment alone. -/
def Connector.pure (name : String) (kind : StepKind)
    (answer : Step → Value → Context → Except Trouble Value) : Connector where
  name := name
  kind := kind
  call := fun step input context environment =>
    (environment, Call.answered ((answer step input context).map .value))

/-- The failure of a step whose settings cannot be decoded. -/
def invalidConfig (kind : FailureKind) (what title : String) (step : Step) (issues : List Issue) :
    Failure where
  kind := kind
  message :=
    "Invalid " ++ what ++ " config for step '" ++ step.id ++ "': " ++ issueReport title issues
  details := [("step_id", .str step.id)]
  issues := issues

end Conduit

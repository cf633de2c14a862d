import Conduit.Connector.Basic

/-!
# Remote actions

A step that asks an outside service for an action, through the connection that the context gives for
its toolkit.

* `ActionResult` — what the service answers;
* `ActionClient` — how the service is asked;
* `RemoteTool.connector` — the connector, which may be interrupted.
-/

namespace Conduit

/-- What an action service answers. -/
structure ActionResult where
  /-- Whether the action was done. -/
  successful : Bool
  /-- What it gave back. -/
  data : Value := .null
  /-- What went wrong. -/
  error : Option String := none
deriving DecidableEq, Inhabited

open Decode in
/-- Decodes an answer. -/
def ActionResult.decode (m : Members) : Decoded ActionResult :=
  ActionResult.mk <$> field m "successful" flag <*> optional m "data" .null any
    <*> optional m "error" none (nullable text)

/-- The members of an answer. -/
def ActionResult.encode (r : ActionResult) : Value :=
  .object [("successful", .bool r.successful), ("data", r.data), ("error", .ofText? r.error)]

/-- An answer on its way. -/
structure ActionReply where
  /-- How long the answer takes. -/
  wait : Wait
  /-- The answer, or what kept the service from giving one. -/
  result : Except Trouble ActionResult

/-- How an action service is asked. -/
abbrev ActionClient := ActionRequest → ActionReply

namespace RemoteTool

/-- The arguments of an action: the input itself, or an object that holds it. -/
def arguments : Value → Members
  | .object members => members
  | v => [("input", v)]

/-- The connection that a context binds to the toolkit of a step; an empty one counts as none. -/
def connection? (step : Step) (context : Context) : Option String :=
  let toolkit? := step.toolkit.filter (!·.isEmpty)
  (toolkit?.bind fun t => context.connections.lookup t).filter (!·.isEmpty)

/-- The connection of the toolkit of a step. -/
def connection (step : Step) (context : Context) : Except Trouble String :=
  match connection? step context with
  | some account => .ok account
  | none =>
    .error (.failure
      { kind := .missingConnection,
        message := Failure.missingConnectionMessage (step.toolkit.getD "None"),
        details := [("toolkit_slug", .ofText? step.toolkit)] })

/-- The request of a step. -/
def request (step : Step) (input : Value) (context : Context) : Except Trouble ActionRequest := do
  let account ← connection step context
  match step.action.filter (!·.isEmpty) with
  | none =>
    throw (.failure
      { kind := .remoteAction, message := "Step '" ++ step.id ++ "' has no action id",
        details := [("step_id", .str step.id)] })
  | some action =>
    return { action := action, arguments := arguments input, account := account,
             entity := context.resource }

/-- The output that an answer stands for. -/
def outputOf (step : Step) (result : ActionResult) : Except Trouble Output :=
  if result.successful then .ok (.value result.data)
  else
    .error (.failure
      { kind := .remoteAction,
        message := (result.error.filter (!·.isEmpty)).getD "Tool execution failed",
        details := [("action_id", .ofText? step.action), ("toolkit_slug", .ofText? step.toolkit)] })

/-- The call of an answer on its way. -/
def callOf (step : Step) (reply : ActionReply) : Call where
  wait := reply.wait
  finish := fun environment => (environment, reply.result.bind (outputOf step))

/-- The connector of remote actions. -/
def connector (client : ActionClient) : Connector where
  name := "RemoteToolConnector"
  kind := .remoteTool
  cancellable := true
  call := fun step input context environment =>
    match request step input context with
    | .error trouble => (environment, Call.answered (.error trouble))
    | .ok r =>
      ({ environment with requests := environment.requests ++ [r] }, callOf step (client r))

end RemoteTool

end Conduit

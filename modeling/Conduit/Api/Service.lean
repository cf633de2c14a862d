import Conduit.Api.Endpoint
import Conduit.Api.Request
import Conduit.Engine.Basic
import Conduit.Workflow.Prerequisites

/-!
# The service

An engine behind addresses: it answers requests with responses.

* `Engine.perform` — does what is asked for at an endpoint;
* `Engine.receive` — what becomes of a request: a response, or a run that is waited for;
* `Engine.respond` — the response to a request.
-/

namespace Conduit

/-- The version of the service. -/
def serviceVersion : String := "1.0.0"

/-- Where everything is offered. -/
def offeredPaths : List (String × String) :=
  [("save_workflow", "POST /api/v1/workflows"), ("list_workflows", "GET /api/v1/workflows"),
   ("get_workflow", "GET /api/v1/workflows/\x7bworkflow_id\x7d"),
   ("delete_workflow", "DELETE /api/v1/workflows/\x7bworkflow_id\x7d"),
   ("validate", "POST /api/v1/workflows/\x7bworkflow_id\x7d/validate"),
   ("generate", "POST /api/v1/workflows/\x7bworkflow_id\x7d/generate"),
   ("execute", "POST /api/v1/workflows/\x7bworkflow_id\x7d/execute"),
   ("stream", "WS /api/v1/ws/workflows/\x7bworkflow_id\x7d/execute"),
   ("get_run", "GET /api/v1/runs/\x7brun_id\x7d"),
   ("cancel_run", "POST /api/v1/runs/\x7brun_id\x7d/cancel"), ("list_tools", "GET /api/v1/tools"),
   ("memory_stats", "GET /api/v1/memory/stats"),
   ("memory_cleanup", "POST /api/v1/memory/cleanup")]

/-- What the service is and offers. -/
def serviceIndex : Value :=
  .object
    [("message", .str "Stepflow API"), ("version", .str serviceVersion), ("docs", .str "/docs"),
     ("endpoints", .object (offeredPaths.map fun entry => (entry.1, .str entry.2)))]

/-- What becomes of a request. -/
inductive Reply where
  /-- It is answered at once. -/
  | response (r : Response)
  /-- It is answered when a run is over. -/
  | running (run : String)
deriving Inhabited

/-- The reply that shows a value. -/
def Reply.ofValue (v : Value) : Reply := .response (Response.ofValue v)

/-- A result, or the response to the trouble that is there instead. -/
def answered {α : Type} (x : Except Trouble α) : Except Response α :=
  match x with
  | .ok a => .ok a
  | .error trouble => .error (Response.ofTrouble trouble)

/-- A value that shows a result as it stands in a document, or the response that says that the
result has no place there. -/
def documented (result : Option RunResult) (v : Value) : Except Response Value :=
  match result.bind RunResult.flaw? with
  | none => .ok v.finite
  | some flaw => .error (Response.crash (.fault (.notDocument flaw)))

/-- The members of the response to a request for a run that is over. -/
def RunRecord.outcome (r : RunRecord) : Except Response Value :=
  match r.run.phase with
  | .over (.finished result) _ =>
    documented (some result)
      (.object (("run_id", .str r.id) :: ("workflow_id", .str r.workflow) :: result.members))
  | .over (.raised trouble) _ => .error (Response.ofTrouble trouble)
  | _ => .error (Response.notFound "Workflow run not found")

namespace Engine

/-- Stores the workflow that comes with a request. -/
def receiveWorkflow (e : Engine) (r : Request) : Engine × Except Response Value :=
  match r.required (Definition.decode .notRecordBody) with
  | .error response => (e, .error response)
  | .ok d =>
    let (e, saved) := e.saveWorkflow d
    (e, (answered saved).map fun stored => .object
      [("workflow_id", .str stored.id), ("version", .int stored.version),
       ("message", .str ("Workflow '" ++ stored.name ++ "' saved"))])

/-- Checks and compiles a workflow, and says what a context lacks for it. -/
def reportWorkflow (e : Engine) (r : Request) (id : String) : Except Response Value := do
  let context ← r.optional {} Context.decodeBindings
  let d ← answered (e.workflow id)
  let p ← answered (e.compile d)
  return .object
    [("workflow_id", .str id), ("valid", .bool true), ("order", .ofTexts p.stepIds),
     ("prerequisites", (d.prerequisites context).encode)]

/-- Makes the listing of a workflow. -/
def reportListing (e : Engine) (r : Request) (id : String) : Engine × Except Response Value :=
  match r.flag "save" true with
  | .error response => (e, .error response)
  | .ok keep =>
    let (e, made) := e.generate id keep
    (e, (answered made).map fun listing => .object
      [("workflow_id", .str id), ("code", .str listing.1), ("path", .ofText? listing.2)])

/-- Removes a workflow. -/
def reportDeleted (e : Engine) (id : String) : Engine × Except Response Value :=
  let (e, deleted) := e.deleteWorkflow id
  (e, (answered deleted).map fun _ => .object
    [("message", .str ("Workflow '" ++ id ++ "' deleted"))])

/-- Shows a run. -/
def reportRun (e : Engine) (id : String) : Except Response Value :=
  match e.run? id with
  | some run => documented run.result? run.encode
  | none => .error (Response.notFound "Workflow run not found")

/-- Asks for a run to be cancelled. -/
def reportCancelled (e : Engine) (id : String) : Engine × Except Response Value :=
  match e.cancelRun id with
  | (e, true) =>
    (e, .ok (.object [("run_id", .str id), ("message", .str "Cancellation requested")]))
  | (e, false) => (e, .error (Response.notFound "No active run with that id"))

/-- Forgets the finished runs. -/
def reportCleanup (e : Engine) : Engine × Value :=
  let (e, count) := e.cleanup
  (e, .object [("removed_runs", .ofNat count), ("stats", e.stats)])

/-- The stored workflows, in short. -/
def reportWorkflows (e : Engine) : Except Response Value := do
  return .object [("workflows", .list ((← answered e.store.list).map Definition.summary))]

/-- The connectors and the known actions. -/
def tools (e : Engine) : Value :=
  .object
    [("connectors", .object e.executor.registry.list),
     ("actions", .list ((e.executor.registry.catalog.list none).map ActionSpec.encode))]

/-- Begins the run that a request asks for. -/
def receiveRun (e : Engine) (r : Request) (id : String) : Engine × Except Response String :=
  match r.required Context.decodePayload with
  | .error response => (e, .error response)
  | .ok context =>
    let (e, started) := e.start { workflow := id, context := context } none false
    (e, answered started)

/-- The reply that shows what was found out. -/
def replying (x : Engine × Except Response Value) : Engine × Except Response Reply :=
  (x.1, x.2.map .ofValue)

/-- Does what is asked for. -/
def perform (e : Engine) (r : Request) : Endpoint → Engine × Except Response Reply
  | .index => replying (e, .ok serviceIndex)
  | .health => replying (e, .ok (.object [("status", .str "healthy")]))
  | .page => (e, .ok (.response { status := 200, content := .text "" }))
  | .saveWorkflow => replying (e.receiveWorkflow r)
  | .listWorkflows => replying (e, e.reportWorkflows)
  | .showWorkflow id => replying (e, (answered (e.workflow id)).map Definition.encode)
  | .deleteWorkflow id => replying (e.reportDeleted id)
  | .validateWorkflow id => replying (e, e.reportWorkflow r id)
  | .generateListing id => replying (e.reportListing r id)
  | .executeWorkflow id =>
    let (e, run) := e.receiveRun r id
    (e, run.map .running)
  | .showRun id => replying (e, e.reportRun id)
  | .cancelRun id => replying (e.reportCancelled id)
  | .listTools => replying (e, .ok e.tools)
  | .showStats => replying (e, .ok e.stats)
  | .cleanUp => replying (e.reportCleanup.1, .ok e.reportCleanup.2)

/-- What becomes of a request. -/
def receive (e : Engine) (r : Request) : Engine × Reply :=
  match Endpoint.find r.method r.address.path with
  | .unknown => (e, .response (Response.notFound "Not Found"))
  | .otherMethod => (e, .response Response.otherMethod)
  | .moved => (e, .response Response.moved)
  | .found endpoint =>
    match e.perform r endpoint with
    | (e, .ok reply) => (e, reply)
    | (e, .error response) => (e, .response response)

/-- The response to a request whose run is over. -/
def responseOfRun (e : Engine) (id : String) : Response :=
  match e.record? id with
  | none => Response.notFound "Workflow run not found"
  | some r =>
    match r.outcome with
    | .ok v => Response.ofValue v
    | .error response => response

/-- Waits for what is left to do for a request. -/
def completeReply (e : Engine) : Reply → Engine × Response
  | .response r => (e, r)
  | .running run =>
    let e := e.await run
    (e, e.responseOfRun run)

/-- The response to a request. -/
def respond (e : Engine) (r : Request) : Engine × Response :=
  let (e, reply) := e.receive r
  e.completeReply reply

end Engine

end Conduit

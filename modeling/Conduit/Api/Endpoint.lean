import Conduit.Api.Address

/-!
# Endpoints

What can be asked of the service, and where.

* `Endpoint`, `Endpoint.offered` — what is offered at a path, by method;
* `Endpoint.find` — what a request asks for;
* `Endpoint.streamed?` — the workflow whose runs can be followed at a path.
-/

namespace Conduit

/-- What can be asked of the service. -/
inductive Endpoint where
  /-- What the service is and offers. -/
  | index
  /-- Whether the service is up. -/
  | health
  /-- A page about the service. -/
  | page
  /-- Store a workflow. -/
  | saveWorkflow
  /-- List the stored workflows. -/
  | listWorkflows
  /-- Show a workflow. -/
  | showWorkflow (id : String)
  /-- Remove a workflow. -/
  | deleteWorkflow (id : String)
  /-- Check and compile a workflow. -/
  | validateWorkflow (id : String)
  /-- Make the listing of a workflow. -/
  | generateListing (id : String)
  /-- Run a workflow and wait for the result. -/
  | executeWorkflow (id : String)
  /-- Show the record of a run. -/
  | showRun (id : String)
  /-- Cancel a run. -/
  | cancelRun (id : String)
  /-- List the connectors and the known actions. -/
  | listTools
  /-- Show what the engine holds. -/
  | showStats
  /-- Forget the finished runs. -/
  | cleanUp
deriving DecidableEq, Inhabited

/-- What a request asks for. -/
inductive Target where
  /-- Something that is offered. -/
  | found (endpoint : Endpoint)
  /-- Something that is offered to other methods. -/
  | otherMethod
  /-- Something that is offered without the slashes at the end. -/
  | moved
  /-- Nothing that is offered. -/
  | unknown
deriving DecidableEq, Inhabited

namespace Endpoint

/-- What is offered at a path that ends with a fixed part, below the common part of all paths. -/
def fixedBelow : List String → List (String × Endpoint)
  | ["workflows"] => [("POST", saveWorkflow), ("GET", listWorkflows)]
  | ["workflows", id, "validate"] => if id.isEmpty then [] else [("POST", validateWorkflow id)]
  | ["workflows", id, "generate"] => if id.isEmpty then [] else [("POST", generateListing id)]
  | ["workflows", id, "execute"] => if id.isEmpty then [] else [("POST", executeWorkflow id)]
  | ["runs", id, "cancel"] => if id.isEmpty then [] else [("POST", cancelRun id)]
  | ["tools"] => [("GET", listTools)]
  | ["memory", "stats"] => [("GET", showStats)]
  | ["memory", "cleanup"] => [("POST", cleanUp)]
  | _ => []

/-- The paths of the pages about the service. -/
def pages : List (List String) :=
  [["", "docs"], ["", "docs", "oauth2-redirect"], ["", "redoc"], ["", "openapi.json"]]

/-- What is offered at a path that ends with a fixed part. -/
def fixed : List String → List (String × Endpoint)
  | ["", ""] => [("GET", index)]
  | ["", "health"] => [("GET", health)]
  | "" :: "api" :: "v1" :: rest => fixedBelow rest
  | path => if path ∈ pages then [("GET", page), ("HEAD", page)] else []

/-- What is offered at a path that ends with an id. -/
def named : List String → List (String × Endpoint)
  | ["", "api", "v1", "workflows", id] =>
    if id.isEmpty then [] else [("GET", showWorkflow id), ("DELETE", deleteWorkflow id)]
  | ["", "api", "v1", "runs", id] => if id.isEmpty then [] else [("GET", showRun id)]
  | _ => []

/-- A path without a line break at its end. -/
def withoutBreak (path : List String) : List String :=
  match path.reverse with
  | [] => []
  | last :: before =>
    match last.toList.reverse with
    | '\n' :: rest => (String.ofList rest.reverse :: before).reverse
    | _ => path

/-- What is offered at a path, by method. A line break at the end of a fixed part does not count. -/
def offered (path : List String) : List (String × Endpoint) :=
  fixed (withoutBreak path) ++ named path

/-- A path without the slashes at its end. -/
def withoutEnd (path : List String) : List String := (path.reverse.dropWhile (·.isEmpty)).reverse

/-- Whether something is offered at a path with one slash more or with none at its end. -/
def isOfferedNearby (path : List String) : Bool :=
  !(offered (withoutEnd path)).isEmpty || !(offered (path ++ [""])).isEmpty

/-- What a request with a method asks for at a path. -/
def find (method : String) (path : List String) : Target :=
  if (offered path).isEmpty then if isOfferedNearby path then .moved else .unknown
  else
    match (offered path).lookup method with
    | some endpoint => .found endpoint
    | none => .otherMethod

/-- The workflow whose runs can be followed at a path. -/
def streamed? (path : List String) : Option String :=
  match withoutBreak path with
  | ["", "api", "v1", "ws", "workflows", id, "execute"] => if id.isEmpty then none else some id
  | _ => none

end Endpoint

end Conduit

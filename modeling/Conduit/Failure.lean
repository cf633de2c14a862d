import Conduit.Decode
import Conduit.Fault

/-!
# Failures

What the engine reports to its callers when a request cannot be met. Every failure has a kind with a
code, a message, and details that name what it is about.

* `FailureKind` — the kinds, with their code and their place in the hierarchy of kinds;
* `Failure` — a failure with its wording;
* `Trouble` — a failure, an unexpected fault, the issues of a value that could not be decoded, or
  that an operation was given up.
-/

namespace Conduit

/-- The kinds of failures. -/
inductive FailureKind where
  /-- Any failure. -/
  | general
  /-- A workflow that is not stored. -/
  | workflowNotFound
  /-- A workflow that cannot be stored or read. -/
  | definitionStore
  /-- A workflow that is not well formed. -/
  | graph
  /-- Two steps of one id, or a reserved id. -/
  | duplicateNode
  /-- A mapping from or to a step that is not there. -/
  | unknownReference
  /-- Two mappings that would overwrite each other. -/
  | ambiguousMapping
  /-- A mapping with a path that cannot be used. -/
  | invalidFieldPath
  /-- Steps that wait for each other. -/
  | cyclicGraph
  /-- A workflow that cannot be compiled. -/
  | compile
  /-- A required input that nothing provides. -/
  | missingRequiredInput
  /-- A mapping that does not fit a schema, or an unknown transform. -/
  | schemaMismatch
  /-- A step that failed. -/
  | connector
  /-- A toolkit without a connection. -/
  | missingConnection
  /-- A remote action that failed. -/
  | remoteAction
  /-- A custom function that failed. -/
  | customCode
  /-- A table that cannot be used. -/
  | table
  /-- A step type without a connector. -/
  | unknownConnector
  /-- An input of a step that cannot be built. -/
  | inputMapping
  /-- A run without its required inputs. -/
  | invalidInputs
  /-- Something that took too long. -/
  | timeout
  /-- A step that took too long. -/
  | stepTimeout
  /-- A run that took too long. -/
  | pipelineTimeout
  /-- A run or a step that was cancelled. -/
  | cancellation
deriving DecidableEq, Inhabited

namespace FailureKind

/-- The word for a kind where a failure is shown as the cause of another. -/
def name : FailureKind → String
  | general => "StepflowError"
  | workflowNotFound => "WorkflowNotFoundError"
  | definitionStore => "DefinitionStoreError"
  | graph => "GraphError"
  | duplicateNode => "DuplicateNodeError"
  | unknownReference => "UnknownNodeReferenceError"
  | ambiguousMapping => "AmbiguousMappingError"
  | invalidFieldPath => "InvalidFieldPathError"
  | cyclicGraph => "CyclicGraphError"
  | compile => "CompileError"
  | missingRequiredInput => "MissingRequiredInputError"
  | schemaMismatch => "SchemaMismatchError"
  | connector => "ConnectorError"
  | missingConnection => "MissingConnectionError"
  | remoteAction => "RemoteActionError"
  | customCode => "CustomCodeError"
  | table => "TableError"
  | unknownConnector => "UnknownConnectorError"
  | inputMapping => "InputMappingError"
  | invalidInputs => "InvalidInputsError"
  | timeout => "ExecutionTimeoutError"
  | stepTimeout => "StepTimeoutError"
  | pipelineTimeout => "PipelineTimeoutError"
  | cancellation => "CancellationError"

/-- The code of a kind. -/
def code : FailureKind → String
  | general => "stepflow_error"
  | workflowNotFound => "workflow_not_found"
  | definitionStore => "definition_store_error"
  | graph => "graph_error"
  | duplicateNode => "duplicate_node_id"
  | unknownReference => "unknown_node_reference"
  | ambiguousMapping => "ambiguous_mapping"
  | invalidFieldPath => "invalid_field_path"
  | cyclicGraph => "cyclic_graph"
  | compile => "compile_error"
  | missingRequiredInput => "missing_required_input"
  | schemaMismatch => "schema_mismatch"
  | connector => "connector_error"
  | missingConnection => "missing_connection"
  | remoteAction => "remote_action_error"
  | customCode => "custom_code_error"
  | table => "table_error"
  | unknownConnector => "unknown_connector"
  | inputMapping => "input_mapping_error"
  | invalidInputs => "invalid_inputs"
  | timeout => "timeout"
  | stepTimeout => "step_timeout"
  | pipelineTimeout => "pipeline_timeout"
  | cancellation => "cancelled"

/-- All kinds. -/
def all : List FailureKind :=
  [general, workflowNotFound, definitionStore, graph, duplicateNode, unknownReference,
   ambiguousMapping, invalidFieldPath, cyclicGraph, compile, missingRequiredInput, schemaMismatch,
   connector, missingConnection, remoteAction, customCode, table, unknownConnector, inputMapping,
   invalidInputs, timeout, stepTimeout, pipelineTimeout, cancellation]

/-- Whether a failure of this kind says that a workflow is not well formed. -/
def isGraph : FailureKind → Bool
  | graph => true
  | duplicateNode => true
  | unknownReference => true
  | ambiguousMapping => true
  | invalidFieldPath => true
  | cyclicGraph => true
  | _ => false

/-- Whether a failure of this kind says that a workflow cannot be compiled. -/
def isCompile : FailureKind → Bool
  | compile => true
  | missingRequiredInput => true
  | schemaMismatch => true
  | _ => false

/-- Whether a failure of this kind comes from a connector. -/
def isConnector : FailureKind → Bool
  | connector => true
  | missingConnection => true
  | remoteAction => true
  | customCode => true
  | table => true
  | unknownConnector => true
  | _ => false

end FailureKind

/-- A failure with its wording. -/
structure Failure where
  /-- What kind of failure it is. -/
  kind : FailureKind
  /-- What happened, in words. -/
  message : String
  /-- What the failure is about. -/
  details : Members := []
  /-- The issues of the value that could not be decoded, when that is what happened. -/
  issues : List Issue := []
deriving DecidableEq, Inhabited

/-- Anything that can keep an operation from its result. -/
inductive Trouble where
  /-- A failure that the engine reports. -/
  | failure (f : Failure)
  /-- A fault that nobody expected. -/
  | fault (f : Fault)
  /-- A value that could not be decoded. -/
  | undecodable (issues : List Issue)
  /-- The operation was given up, which what catches all other trouble lets pass. -/
  | cancelled
deriving DecidableEq, Inhabited

namespace Failure

/-- The report of a failure: its message, its code and its details. -/
def report (f : Failure) : Value :=
  .object [("error", .str f.message), ("code", .str f.kind.code), ("details", .object f.details)]

/-- A failure of a workflow that is not stored. -/
def workflowNotFound (id : String) : Failure where
  kind := .workflowNotFound
  message := "Workflow '" ++ id ++ "' not found"
  details := [("workflow_id", .str id)]

/-- The wording of a cycle. -/
def cycleMessage (ids : List String) : String :=
  "Workflow graph contains a cycle: " ++ " -> ".intercalate ids

/-- The wording for a toolkit without a connection. -/
def missingConnectionMessage (toolkit : String) : String :=
  "No connection bound for toolkit: " ++ toolkit

end Failure

/-- The report of the issues of a value that should have been a record of this title. -/
def issueReport (title : String) (issues : List Issue) : String :=
  let placeText (p : Place) : String :=
    match p with
    | .field name => name
    | .item index => toString index
  let lines := issues.map fun i =>
    "\n" ++ ".".intercalate (i.place.map placeText) ++ "\n  " ++ i.kind.name
  toString issues.length
    ++ (if issues.length = 1 then " validation error for " else " validation errors for ")
    ++ title ++ String.join lines

/-- The wording of trouble as the cause of a failure: the word for its kind and its message. -/
def Trouble.report : Trouble → String
  | .failure f => f.kind.name ++ ": " ++ f.message
  | .fault f => f.report
  | .undecodable issues => "ValidationError: " ++ issueReport "value" issues
  | .cancelled => "CancelledError: "

end Conduit

import Conduit.Connector.Service
import Conduit.Engine.Basic
import Conduit.Sample
import Conduit.Settings

/-!
# Deployments

The engine that settings describe.

* `Settings.service`, `Settings.catalog`, `Settings.executor` — its parts;
* `Settings.engine` — the engine;
* `Engine.seed` — stores the sample workflow.
-/

namespace Conduit

/-- Where files are read: the text at a path. -/
abbrev Files := String → Except Fault String

/-- The parts of a path, without those that stay in place. -/
def pathParts (path : String) : List String :=
  ((Text.splitOn ['/'] path.toList).map String.ofList).filter fun part => part != "" && part != "."

/-- What a path begins with: one slash, or exactly two, or none. -/
def pathStart (path : String) : String :=
  match path.toList with
  | '/' :: '/' :: '/' :: _ => "/"
  | '/' :: '/' :: _ => "//"
  | '/' :: _ => "/"
  | _ => ""

/-- A path in its shortest spelling. -/
def plainPath (path : String) : String :=
  let plain := pathStart path ++ "/".intercalate (pathParts path)
  if plain.isEmpty then "." else plain

namespace Settings

/-- The action service of the settings. -/
def service (s : Settings) : ActionService :=
  ActionService.located s.actionUrl (s.actionKey.filter (!·.isEmpty)) s.actionTimeout

/-- The actions of the catalog file of the settings, if they name one. -/
def furtherActions (s : Settings) (files : Files) : Except Trouble (List ActionSpec) :=
  match s.catalogPath.filter (!·.isEmpty) with
  | none => .ok []
  | some path =>
    match files (plainPath path) with
    | .error fault => .error (.fault fault)
    | .ok text => (Catalog.ofText text).map fun c => c.list none

/-- The catalog of the settings: the actions of the sample, and those of the catalog file. -/
def catalog (s : Settings) (files : Files) : Except Trouble Catalog := do
  return Catalog.ofSpecs (Sample.actions ++ (← s.furtherActions files))

/-- The executor of the settings. -/
def executor (s : Settings) (registry : Registry) : Except Fault Executor :=
  Executor.ofSettings registry (.int s.concurrency) (s.timeout.map fun x => ⟨.float x⟩)
    (s.stepTimeout.map fun x => ⟨.float x⟩)

/-- The store of the settings. -/
def store (s : Settings) : Except Fault Store := Store.ofKind s.storeBackend (plainPath s.storePath)

/-- The engine of the settings. -/
def engine (s : Settings) (files : Files) (client : ActionService → ActionClient)
    (loader : CodeLoader) (evaluate : Evaluator) (origin : Moment) : Except Trouble Engine := do
  let registry := Registry.standard (client s.service) [] loader evaluate (← s.catalog files)
  match s.executor registry, s.store with
  | .error fault, _ => throw (.fault fault)
  | _, .error fault => throw (.fault fault)
  | .ok executor, .ok store =>
    return { store := store, executor := executor, maxRuns := some s.maxRuns, origin := origin }

end Settings

/-- Stores the sample workflow unless there is a workflow of its id. -/
def Engine.seed (e : Engine) : Engine × Except Trouble Unit :=
  match e.workflow Sample.workflow.id with
  | .ok _ => (e, .ok ())
  | .error (.failure f) =>
    if f.kind = .workflowNotFound then
      let (e, saved) := e.saveWorkflow Sample.workflow
      (e, saved.map fun _ => ())
    else (e, .error (.failure f))
  | .error trouble => (e, .error trouble)

end Conduit

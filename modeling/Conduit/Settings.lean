import Conduit.Decode
import Conduit.Text.Case
import Conduit.Text.Search

/-!
# Settings

The settings of a deployment, read from environment variables. A variable is called like its setting
with `STEPFLOW_` in front, in any case.

* `Settings`, `Settings.ofVariables` — the settings;
* `Settings.encode` — the settings for show, with the key masked.
-/

namespace Conduit

/-- The settings of a deployment. -/
structure Settings where
  /-- What the deployment is called. -/
  environment : String := "development"
  /-- How much is logged. -/
  logLevel : String := "INFO"
  /-- Which kind of store holds the workflows. -/
  storeBackend : String := "memory"
  /-- Where the store keeps its files. -/
  storePath : String := "_tables/workflows"
  /-- How many steps of a run may be in flight at once. -/
  concurrency : Int := 1
  /-- How many seconds a run may take. -/
  timeout : Option Double := none
  /-- How many seconds a step may take. -/
  stepTimeout : Option Double := none
  /-- How many finished runs are kept. -/
  maxRuns : Int := 1000
  /-- Where the action service is. -/
  actionUrl : String := "https://backend.composio.dev/api/v3"
  /-- The key for the action service. -/
  actionKey : Option String := none
  /-- How many seconds a request to the action service may take. -/
  actionTimeout : Double := Double.ofRatio false 60 1
  /-- A file of further actions. -/
  catalogPath : Option String := none
  /-- Whether the sample workflow is stored at the start. -/
  seedSamples : Bool := true
deriving DecidableEq, Inhabited

namespace Settings

/-- What the names of the variables begin with, in lower case. -/
def namePrefix : String := "stepflow_"

/-- The settings that the entries of an environment give, by name; the last of several wins. -/
def given (entries : List (String × String)) : Members :=
  Members.ofPairs <| entries.filterMap fun entry =>
    let name := Text.lower entry.1.toList
    if Text.startsWith name namePrefix.toList then
      some (String.ofList (name.drop namePrefix.length), .str entry.2)
    else none

open Decode

/-- A positive integer. -/
def positive : Decoder Int := fun v => (integer v).check (fun n => decide (1 ≤ n)) .tooSmall

/-- The settings that the entries of an environment give. -/
def ofVariables (entries : List (String × String)) : Decoded Settings :=
  let m := given entries
  let base : Settings := {}
  Settings.mk <$> optional m "env" base.environment text
    <*> optional m "log_level" base.logLevel text
    <*> optional m "store_backend" base.storeBackend text
    <*> optional m "store_path" base.storePath text
    <*> optional m "max_concurrency" base.concurrency positive
    <*> optional m "pipeline_timeout_s" base.timeout (nullable real)
    <*> optional m "step_timeout_s" base.stepTimeout (nullable real)
    <*> optional m "max_runs" base.maxRuns positive
    <*> optional m "action_api_url" base.actionUrl text
    <*> optional m "action_api_key" base.actionKey (nullable text)
    <*> optional m "action_timeout_s" base.actionTimeout real
    <*> optional m "catalog_path" base.catalogPath (nullable text)
    <*> optional m "seed_samples" base.seedSamples flag

/-- A key that is not shown. -/
def masked (key : String) : String := if key.isEmpty then "" else "**********"

/-- A double, or null. -/
def ofReal? : Option Double → Value
  | some x => .float x
  | none => .null

/-- The settings for show. -/
def encode (s : Settings) : Value :=
  .object
    [("env", .str s.environment), ("log_level", .str s.logLevel),
     ("store_backend", .str s.storeBackend), ("store_path", .str s.storePath),
     ("max_concurrency", .int s.concurrency), ("pipeline_timeout_s", ofReal? s.timeout),
     ("step_timeout_s", ofReal? s.stepTimeout), ("max_runs", .int s.maxRuns),
     ("action_api_url", .str s.actionUrl), ("action_api_key", .ofText? (s.actionKey.map masked)),
     ("action_timeout_s", .float s.actionTimeout), ("catalog_path", .ofText? s.catalogPath),
     ("seed_samples", .bool s.seedSamples)]

end Settings

end Conduit

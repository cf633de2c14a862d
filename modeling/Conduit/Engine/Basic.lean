import Conduit.Engine.Record
import Conduit.Pipeline.Listing
import Conduit.Store.Basic

/-!
# The engine

An engine loads, checks, compiles and runs stored workflows and keeps a record of every run,
finished or in progress. All runs share one clock, and what one connector does is seen by the next.

* `Engine` — the engine;
* `Engine.saveWorkflow`, `Engine.compileWorkflow`, `Engine.generate` — workflows;
* `Engine.start`, `Engine.advanceTo`, `Engine.await` — runs and the clock;
* `Engine.cancelRun`, `Engine.abandon`, `Engine.cleanup`, `Engine.stats` — the records.
-/

namespace Conduit

/-- Loads, checks, compiles and runs stored workflows. -/
structure Engine where
  /-- Where the workflows are. -/
  store : Store
  /-- How runs are made. -/
  executor : Executor
  /-- How many finished runs are kept, if not all. -/
  maxRuns : Option Int := none
  /-- The moment at which the clock reads zero. -/
  origin : Moment
  /-- The clock, in microseconds. -/
  now : Nat := 0
  /-- What the connectors act on. -/
  environment : Environment := {}
  /-- The runs, in the order in which they were made. -/
  records : List RunRecord := []
  /-- The runs that can be cancelled, by their ids: those in progress hold a token each. -/
  tokens : List String := []
deriving Inhabited

namespace Engine

/-- The moment that the clock shows. -/
def moment (e : Engine) : Moment := { e.origin with micros := e.origin.micros + e.now }

/-! ## Workflows -/

/-- A workflow with the schemas of the catalog. -/
def hydrate (e : Engine) (d : Definition) : Definition := e.executor.registry.catalog.hydrate d

/-- The graph of a workflow with the schemas of the catalog. -/
def graphOf (e : Engine) (d : Definition) : Except Trouble Graph :=
  match Graph.ofDefinition (e.hydrate d) with
  | .ok g => .ok g
  | .error fault => .error (.failure fault.failure)

/-- Stores a workflow that is well formed. -/
def saveWorkflow (e : Engine) (d : Definition) : Engine × Except Trouble Definition :=
  match e.graphOf d with
  | .error trouble => (e, .error trouble)
  | .ok _ =>
    let (store, saved) := e.store.save d e.moment
    ({ e with store := store }, saved)

/-- The workflow of an id. -/
def workflow (e : Engine) (id : String) : Except Trouble Definition := e.store.load id

/-- The graph of a stored workflow. -/
def validateWorkflow (e : Engine) (id : String) : Except Trouble Graph := do
  e.graphOf (← e.workflow id)

/-- Compiles a workflow. -/
def compile (e : Engine) (d : Definition) : Except Trouble Pipeline := (e.hydrate d).compile none

/-- Compiles a stored workflow. -/
def compileWorkflow (e : Engine) (id : String) : Except Trouble Pipeline := do
  e.compile (← e.workflow id)

/-- Removes a stored workflow. -/
def deleteWorkflow (e : Engine) (id : String) : Engine × Except Trouble Unit :=
  let (store, deleted) := e.store.delete id
  ({ e with store := store }, deleted)

/-- The listing of a stored workflow. -/
def listingOf (e : Engine) (id : String) : Except Trouble String := do
  match (← e.compileWorkflow id).listing e.moment with
  | .error fault => throw (.fault fault)
  | .ok code => return code

/-- The listing of a stored workflow, and where it is kept if it is to be kept. -/
def generate (e : Engine) (id : String) (keep : Bool) :
    Engine × Except Trouble (String × Option String) :=
  match e.listingOf id, keep with
  | .error trouble, _ => (e, .error trouble)
  | .ok code, false => (e, .ok (code, none))
  | .ok code, true =>
    let (store, place) := e.store.saveListing id code
    ({ e with store := store }, place.map fun path => (code, some path))

/-! ## Records -/

/-- The runs that the engine knows. -/
def runs (e : Engine) : List RunRecord := e.records.filter fun r => !r.forgotten

/-- The record of a run that the engine knows. -/
def run? (e : Engine) (id : String) : Option RunRecord := e.runs.find? fun r => r.id == id

/-- The record of a run, whether the engine still knows it or not. -/
def record? (e : Engine) (id : String) : Option RunRecord := e.records.find? fun r => r.id == id

/-- Whether a run can be cancelled. -/
def hasToken (e : Engine) (r : RunRecord) : Bool := decide (r.id ∈ e.tokens)

/-- The runs in progress, as far as the engine knows. -/
def activeRuns (e : Engine) : List RunRecord := e.runs.filter e.hasToken

/-- Whether a run is over, or was never made. -/
def isOver (e : Engine) (id : String) : Bool :=
  match e.record? id with
  | none => true
  | some r => !r.isActive

/-- Changes the record of a run. -/
def update (e : Engine) (id : String) (change : RunRecord → RunRecord) : Engine :=
  { e with records := e.records.map fun r => if r.id = id then change r else r }

/-- Forgets runs. -/
def forget (e : Engine) (ids : List String) : Engine :=
  { e with
    records := e.records.map fun r =>
      if r.id ∈ ids then { r with forgotten := true } else r }

/-- The finished runs that the engine knows. -/
def finishedRuns (e : Engine) : List RunRecord := e.runs.filter fun r => !e.hasToken r

/-- Forgets the earliest finished runs beyond the number that is kept. -/
def evict (e : Engine) : Engine :=
  match e.maxRuns with
  | none => e
  | some kept =>
    let finished := e.finishedRuns.map RunRecord.id
    e.forget (finished.take (finished.length - kept).toNat)

/-- Forgets all finished runs, and says how many. -/
def cleanup (e : Engine) : Engine × Nat :=
  let finished := e.finishedRuns.map RunRecord.id
  (e.forget finished, finished.length)

/-- What is done at the end of a run, however it ended: its record tells when that was, its token
goes, and too many finished runs are forgotten. -/
def conclude (e : Engine) (id : String) : Engine :=
  let e := e.update id fun r => { r with completedAt? := some e.now }
  { e with tokens := e.tokens.filter (· != id) }.evict

/-- Asks for a run to be cancelled; whether there is a token for that. -/
def cancelRun (e : Engine) (id : String) : Engine × Bool :=
  if id ∈ e.tokens then (e.update id fun r => { r with run := r.run.cancel }, true) else (e, false)

/-- Gives up waiting for a run; whether it was in progress. -/
def abandon (e : Engine) (id : String) : Engine × Bool :=
  if e.isOver id then (e, false)
  else (e.update id fun r => { r with abandoned := true }, true)

/-- How many results of steps the known runs hold. -/
def stepResultCount (e : Engine) : Nat :=
  (e.runs.map fun r => (r.result?.map fun result => result.steps.length).getD 0).foldl (· + ·) 0

/-- What the engine holds. -/
def stats (e : Engine) : Value :=
  .object
    [("runs", .ofNat e.runs.length),
     ("max_runs", (e.maxRuns.map Value.int).getD .null),
     ("active_runs", .ofNat e.tokens.length),
     ("connectors", .ofNat e.executor.registry.list.length),
     ("catalog_actions", .ofNat e.executor.registry.catalog.size),
     ("total_step_results", .ofNat e.stepResultCount)]

/-! ## The clock -/

/-- Puts the clock and the environment of the engine into a run. -/
def lend (e : Engine) (r : Run) : Run := { r with environment := e.environment }

/-- Takes back a run and the environment, and does what is to be done if the run is over now. -/
def takeBack (e : Engine) (record : RunRecord) (run : Run) : Engine :=
  let e := { e with environment := run.environment }.update record.id fun r => { r with run := run }
  if record.isActive && run.isOver then e.conclude record.id else e

/-- When something happens in a run. -/
def timeOf (e : Engine) (r : RunRecord) : Option Nat :=
  if r.isLeaving then some e.now else r.run.nextTime?.map (max e.now)

/-- The run in which something happens first, and when. -/
def next? (e : Engine) : Option (RunRecord × Nat) :=
  e.records.foldl
    (fun best r =>
      match e.timeOf r, best with
      | none, _ => best
      | some time, none => some (r, time)
      | some time, some (_, earliest) => if time < earliest then some (r, time) else best)
    none

/-- What happens in a run at a reading of the clock. -/
def tick (e : Engine) (r : RunRecord) (time : Nat) : Engine :=
  let e := { e with now := max e.now time }
  let run : Run := { e.lend r.run with now := e.now }
  if r.isLeaving then e.takeBack r { r with run := run }.leave.run
  else e.takeBack r (run.tick e.now)

/-- A bound for the number of readings at which something happens. -/
def ticksLeft (e : Engine) : Nat :=
  (e.records.map fun r => r.run.ticksLeft + 2).foldl (· + ·) 0

/-- Lets the clock go on while something happens before `limit` and `stop` does not hold. -/
def advanceWhile (limit : Option Nat) (stop : Engine → Bool) : Nat → Engine → Engine
  | 0, e => e
  | fuel + 1, e =>
    if stop e then e
    else
      match e.next? with
      | none => e
      | some (r, time) =>
        if limit.all fun l => decide (time < l) then
          advanceWhile limit stop fuel (e.tick r time)
        else e

/-- Lets the clock go on up to a reading. -/
def advanceTo (e : Engine) (time : Nat) : Engine :=
  let e := advanceWhile (some time) (fun _ => false) e.ticksLeft e
  { e with now := max e.now time }

/-- Does all that is left to do at this reading of the clock. -/
def flush (e : Engine) : Engine := { e.advanceTo (e.now + 1) with now := e.now }

/-- Lets the clock go on until a run is over. -/
def await (e : Engine) (id : String) : Engine :=
  advanceWhile none (fun e => e.isOver id) e.ticksLeft e

/-- The id of the next run. -/
def nextId (e : Engine) : String := "run-" ++ toString (e.records.length + 1)

/-- Puts the next run on record, with a token, and lets it go on until it has to wait. -/
def enroll (e : Engine) (p : Pipeline) (request : Invocation) (reader : Option Reader)
    (cancelled : Bool) : Engine :=
  let plan : Plan :=
    { executor := e.executor, pipeline := p, context := request.context, id := e.nextId,
      origin := e.origin }
  let run := Run.start plan e.now e.environment reader cancelled
  let record : RunRecord := { workflow := request.workflow, createdAt := e.now, run := run }
  let after : Engine :=
    { e with
      environment := run.environment
      records := e.records ++ [record]
      tokens := e.tokens ++ [e.nextId] }
  if run.isOver then after.conclude e.nextId else after

/-- Begins a run of a stored workflow. -/
def start (e : Engine) (request : Invocation) (reader : Option Reader) (cancelled : Bool) :
    Engine × Except Trouble String :=
  match e.compileWorkflow request.workflow with
  | .error trouble => (e, .error trouble)
  | .ok p =>
    let e := e.flush
    (e.enroll p request reader cancelled, .ok e.nextId)

end Engine

end Conduit

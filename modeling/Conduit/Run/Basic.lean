import Conduit.Run.Flight
import Conduit.Run.Outputs

/-!
# Runs

A run carries out the steps of a pipeline. Its dispatcher puts steps in flight in the order of the
pipeline, each as soon as all steps that it depends on have succeeded and fewer steps are in flight
than the executor allows. The first step that fails stops the dispatcher, and so do a request to
cancel and the time limit of the run; what is in flight then is seen to its end, interrupted or not.
A step can also be given up: by its connector, which answers so, or by the listener over an event
about the step. To the step that is an interruption like any other. A listener that gives up over
the end of a run keeps its result from the caller.

The functions here are the moves of a run. When each of them is made is a matter of the clock.

* `Run` — a run in progress;
* `Run.advance` — takes a step in flight to its next stage;
* `Run.interrupt` — interrupts a step in flight;
* `Run.dispatch`, `Run.collect` — puts steps in flight, and takes those that are over out of it;
* `Run.heed`, `Run.expire` — what a request to cancel and the time limit do;
* `Run.conclude` — ends a run with nothing in flight.
-/

namespace Conduit

/-- What a run is about. -/
structure Plan where
  /-- How runs are made. -/
  executor : Executor
  /-- What is run. -/
  pipeline : Pipeline
  /-- In which context. -/
  context : Context
  /-- What the run is called. -/
  id : String
  /-- The moment at which the clock reads zero. -/
  origin : Moment
  /-- How the listener takes events. -/
  delivery : Delivery := {}
deriving Inhabited

/-- The moment of a reading of the clock. -/
def Plan.moment (p : Plan) (micros : Nat) : Moment :=
  { p.origin with micros := p.origin.micros + micros }

/-- How a run ended. -/
inductive Ending where
  /-- With a result. -/
  | finished (result : RunResult)
  /-- With a result that its caller does not get: the listener gave up over it. -/
  | forsaken (result : RunResult)
  /-- With trouble that nobody expected. -/
  | raised (trouble : Trouble)
  /-- Its caller gave up waiting for it. -/
  | abandoned
deriving Inhabited

/-- How a run ends whose end was told. -/
def Delivery.endingOf (d : Delivery) (result : RunResult) : Ending :=
  if d.givesUpEnd result then .forsaken result else .finished result

/-- How far a run has come. -/
inductive Phase where
  /-- Steps are dispatched. -/
  | running
  /-- The end is being reported. -/
  | closing (result : RunResult) (due : Option Nat)
  /-- The run is over since a reading of the clock. -/
  | over (ending : Ending) (time : Nat)
deriving Inhabited

/-- What goes on as soon as it is its turn. -/
inductive Turn where
  /-- A step in flight. -/
  | flight (id : String)
  /-- The reader of the events. -/
  | reader
  /-- The end of the run. -/
  | finish
deriving DecidableEq, Inhabited

/-- Reads the events of a run as a stream. A prompt reader gets in line when there is something to
read, reads all that there is in its turn, and closes the stream when it has read enough. Any other
reads one event at a time and closes the stream when it likes. -/
structure Reader where
  /-- The events that were not read yet. -/
  unread : List RunEvent := []
  /-- Whether the reader is prompt. -/
  prompt : Bool := true
  /-- How many events a prompt reader will read; it then closes the stream. -/
  left : Option Nat := none
  /-- Whether the reader closed the stream. -/
  closed : Bool := false
deriving DecidableEq, Inhabited

/-- A run in progress. -/
structure Run where
  /-- What the run is about. -/
  plan : Plan
  /-- The clock, in microseconds. -/
  now : Nat
  /-- What the connectors act on. -/
  environment : Environment
  /-- The inputs, with the defaults below them. -/
  inputs : Members := []
  /-- The steps that were not dispatched yet, in order. -/
  waiting : List PipelineStep := []
  /-- The steps in flight, in order of their dispatch. -/
  flights : List Flight := []
  /-- The steps that succeeded. -/
  succeeded : List String := []
  /-- The outputs. -/
  outputs : Outputs := {}
  /-- What became of the steps that are over. -/
  reports : List Report := []
  /-- What stopped the dispatcher. -/
  failure : Option Failure := none
  /-- Why steps were interrupted, when it was for the time limit. -/
  expired : Option Failure := none
  /-- Whether the run was asked to be cancelled. -/
  cancelled : Bool := false
  /-- Whether the dispatcher has heeded that. -/
  heeded : Bool := false
  /-- When the time limit of the run is reached. -/
  deadline : Option Nat := none
  /-- How far the run has come. -/
  phase : Phase := .running
  /-- What is ready to go on, in order. -/
  ready : List Turn := []
  /-- Whether the step that is first in line is in the middle of its turn: nothing goes on before
  it. -/
  held : Bool := false
  /-- The events, in order. -/
  events : List RunEvent := []
  /-- What the listener saw. -/
  sightings : List Sighting := []
  /-- The steps in progress. -/
  current : List String := []
  /-- The state of the run, as its listener knows it. -/
  state : RunState := .pending
  /-- Reads the events as a stream, if anyone does. -/
  reader : Option Reader := none
deriving Inhabited

namespace Run

/-! ## Events -/

/-- Notes an event in the state of the run. -/
def track (r : Run) (e : RunEvent) : Run :=
  match e with
  | .started s => { r with state := .running, current := r.current ++ [s.step.id] }
  | .done _ => r
  | e => { r with current := r.current.erase (e.step?.getD "") }

/-- An event as it is seen now, with the trouble that the listener has with it. -/
def sight (r : Run) (e : RunEvent) (trouble : Option Trouble) : Run :=
  { r with sightings := r.sightings ++ [⟨e, r.now, r.state, r.current, trouble⟩] }

/-- Gives something its turn after all that is ready. -/
def queue (r : Run) (t : Turn) : Run :=
  if t ∈ r.ready then r else { r with ready := r.ready ++ [t] }

/-- Hands an event to the listener: at once, or for the reader to read. Trouble that the listener
has with it is no trouble of the run, unless it gives something up. -/
def deliver (r : Run) (e : RunEvent) : Run :=
  match r.reader with
  | none => r.sight e (r.plan.delivery.trouble? e)
  | some reader =>
    if reader.closed then r
    else
      let given : Run := { r with reader := some { reader with unread := reader.unread ++ [e] } }
      if reader.prompt then given.queue .reader else given

/-- Makes an event. -/
def emit (r : Run) (e : RunEvent) : Run := ({ r with events := r.events ++ [e] }.track e).deliver e

/-! ## Steps in flight -/

/-- The step in flight of an id. -/
def flight? (r : Run) (id : String) : Option Flight := r.flights.find? fun f => f.id == id

/-- Puts a step in flight in the place of the one of its id. -/
def setFlight (r : Run) (f : Flight) : Run :=
  { r with flights := r.flights.map fun g => if g.id = f.id then f else g }

/-- Takes a step to a stage that it leaves after a wait. -/
def enterStage (r : Run) (f : Flight) (stage : Stage) (wait : Wait) : Run :=
  match wait with
  | .none =>
    { r.setFlight { f with stage := stage, due := none } with
      ready := .flight f.id :: r.ready, held := true }
  | .turn =>
    { r.setFlight { f with stage := stage, due := none } with held := false }.queue (.flight f.id)
  | .time micros =>
    { r.setFlight { f with stage := stage, due := some (r.now + micros) } with held := false }

/-- Makes an event about a step in flight and takes the step to a stage that it leaves when the
listener is done with the event. The stage goes by whether the listener gives the step up over it.
-/
def announceStage (r : Run) (f : Flight) (e : RunEvent) (stage : Bool → Stage) : Run :=
  (r.emit e).enterStage f (stage (r.plan.delivery.givesUp e)) (r.plan.delivery.wait e)

/-- Reports the start of a step. -/
def openFlight (r : Run) (f : Flight) : Run :=
  r.announceStage { f with startedAt := r.now } (.started f.item) .opening

/-- Reports that a step stopped. -/
def stopFlight (r : Run) (f : Flight) (status : StepStatus) (failure : Failure) : Run :=
  let report := f.stop r.now status failure
  r.announceStage f (.stopped f.item status failure report.micros) (.closing report)

/-- The status and the failure of a step that is interrupted. -/
def interruption (r : Run) (f : Flight) : StepStatus × Failure :=
  match r.expired with
  | some failure => (.error, failure)
  | none => (.cancelled, stepCancelled f.id)

/-- Reports that a step was interrupted or given up. -/
def cutFlight (r : Run) (f : Flight) : Run :=
  r.stopFlight f (r.interruption f).1 (r.interruption f).2

/-- Reports that a step failed. -/
def failFlight (r : Run) (f : Flight) (failure : Failure) : Run := r.stopFlight f .error failure

/-- Records the output of a step and reports its success. -/
def completeFlight (r : Run) (f : Flight) (output : Output) : Run :=
  let report := f.succeed r.now output
  match r.outputs.record f.id output with
  | .error fault => r.failFlight f (connectorFailure f.id fault.report)
  | .ok outputs =>
    { r with outputs := outputs }.announceStage f
      (.completed f.item (output.read r.environment) report.micros) (.closing report)

/-- Builds the input of a step and finds its connector. -/
def prepareFlight (r : Run) (f : Flight) : Run :=
  match f.item.mapper.build (r.outputs.read r.environment) r.inputs with
  | .error fault => r.failFlight f (fault.trouble.stepFailure f.id)
  | .ok input =>
    match r.plan.executor.registry.connectorOf f.item.step with
    | .error failure => r.failFlight f failure
    | .ok connector =>
      match r.plan.executor.stepLimit? with
      | none => r.enterStage f (.entering input connector) .none
      | some limit =>
        match limit.callFault? with
        | some fault => r.failFlight f ((Trouble.fault fault).stepFailure f.id)
        | none => r.enterStage f (.entering input connector) .turn

/-- Whether a time limit comes before the end of a wait. -/
def comesFirst (limit : TimeLimit) : Wait → Bool
  | .time micros => decide (limit.micros ≤ micros)
  | _ => false

/-- Passes on a request to cancel that was made by a step. -/
def hearStop (r : Run) : Run :=
  { r with
    cancelled := r.cancelled || r.environment.stopRequested
    environment := { r.environment with stopRequested := false } }

/-- The run after a call acted on the environment. -/
def afterCall (r : Run) (environment : Environment) : Run :=
  { r with environment := environment }.hearStop

/-- Begins the call of a connector. -/
def beginCall (r : Run) (f : Flight) (input : Value) (connector : Connector) : Run :=
  let (environment, call) := connector.call f.item.step input r.plan.context r.environment
  let r := r.afterCall environment
  match r.plan.executor.stepLimit? with
  | none => r.enterStage f (.calling call false) call.wait
  | some limit =>
    if comesFirst limit call.wait then r.enterStage f (.calling call true) (.time limit.micros)
    else r.enterStage f (.calling call false) call.wait

/-- Calls the connector of a step, unless there is no time for it. -/
def callFlight (r : Run) (f : Flight) (input : Value) (connector : Connector) : Run :=
  match r.plan.executor.stepLimit? with
  | none => r.beginCall f input connector
  | some limit =>
    if limit.leavesTime then r.beginCall f input connector
    else r.failFlight f (stepTimeoutFailure f.id limit)

/-- Takes the answer of a connector that came in time. -/
def takeAnswer (r : Run) (f : Flight) (call : Call) : Run :=
  let finished := call.finish r.environment
  match finished.2 with
  | .error .cancelled => (r.afterCall finished.1).cutFlight f
  | .error trouble => (r.afterCall finished.1).failFlight f (trouble.stepFailure f.id)
  | .ok (.uncopyable fault) => (r.afterCall finished.1).failFlight f (uncopyableFailure f.id fault)
  | .ok output => (r.afterCall finished.1).completeFlight f output

/-- Takes the answer of a connector. -/
def answerFlight (r : Run) (f : Flight) (call : Call) (overdue : Bool) : Run :=
  match overdue, r.plan.executor.stepLimit? with
  | true, some limit => r.failFlight f (stepTimeoutFailure f.id limit)
  | _, _ => r.takeAnswer f call

/-- Ends a step. -/
def endFlight (r : Run) (f : Flight) (report : Option Report) : Run :=
  { r.setFlight { f with stage := .ended report, due := none } with held := false }

/-- Takes a step in flight to its next stage. -/
def advance (r : Run) (id : String) : Run :=
  match r.flight? id with
  | none => r
  | some f =>
    match f.stage with
    | .queued => r.openFlight f
    | .opening givenUp => if givenUp then r.cutFlight f else r.prepareFlight f
    | .entering input connector => r.callFlight f input connector
    | .calling call overdue => r.answerFlight f call overdue
    | .closing report givenUp => r.endFlight f (if givenUp then none else some report)
    | .ended _ => r

/-- Takes away the turn of a step. -/
def dropTurn (r : Run) (id : String) : Run :=
  { r with ready := r.ready.filter fun t => t != .flight id }

/-- Interrupts a step in flight. One that has not begun never will, one whose end is being reported
loses its report, and any other stops. -/
def interrupt (r : Run) (id : String) : Run :=
  match r.flight? id with
  | none => r
  | some f =>
    let r := r.dropTurn id
    match f.stage with
    | .queued => r.endFlight f none
    | .closing _ _ => r.endFlight f none
    | .ended _ => r
    | _ => r.cutFlight f

/-- Interrupts steps in flight, in order. -/
def interruptAll (r : Run) (ids : List String) : Run := ids.foldl interrupt r

/-! ## The dispatcher -/

/-- Whether all steps that a step depends on have succeeded. -/
def isReady (r : Run) (s : PipelineStep) : Bool :=
  s.dependsOn.all fun id => decide (id ∈ r.succeeded)

/-- Whether another step may be put in flight. -/
def mayDispatch (r : Run) : Bool :=
  r.failure.isNone && !r.cancelled && decide (r.flights.length < r.plan.executor.concurrency)

/-- Puts a step in flight. -/
def launch (r : Run) (s : PipelineStep) : Run :=
  { r with
    waiting := r.waiting.filter fun t => t.step.id != s.step.id
    flights := r.flights ++ [{ item := s, startedAt := r.now }]
    ready := r.ready ++ [.flight s.step.id] }

/-- Puts steps in flight; `fuel` bounds their number. -/
def dispatchUpTo : Nat → Run → Run
  | 0, r => r
  | fuel + 1, r =>
    if r.mayDispatch then
      match r.waiting.find? r.isReady with
      | none => r
      | some s => dispatchUpTo fuel (r.launch s)
    else r

/-- Puts as many steps in flight as may be. -/
def dispatch (r : Run) : Run := dispatchUpTo r.waiting.length r

/-- Takes notice of what became of a step. -/
def note (r : Run) (report : Option Report) : Run :=
  match report with
  | none => r
  | some report =>
    let r := { r with reports := r.reports ++ [report] }
    match report.status with
    | .success => { r with succeeded := r.succeeded ++ [report.item.step.id] }
    | .error => { r with failure := r.failure <|> report.failure }
    | _ => r

/-- The reports of the steps that are over; a lost report is missing. -/
def endings : List Flight → List (Option Report)
  | [] => []
  | f :: rest =>
    match f.stage with
    | .ended report => report :: endings rest
    | _ => endings rest

/-- Takes the steps that are over out of flight. -/
def collect (r : Run) : Run :=
  (endings r.flights).foldl note { r with flights := r.flights.filter fun f => !f.stage.isEnded }

/-- Heeds a request to cancel: interrupts what may be interrupted. -/
def heed (r : Run) : Run :=
  if r.cancelled && !r.heeded then
    let heeding : Run := { r with heeded := true }
    heeding.interruptAll
      ((r.flights.filter fun f => r.plan.executor.mayInterrupt f.item.step).map Flight.id)
  else r

/-- Stops a run whose time limit is reached and interrupts all that is in flight. -/
def expire (r : Run) (limit : TimeLimit) : Run :=
  let expiring : Run :=
    { r with failure := some (timeoutFailure limit), expired := some (timeoutFailure limit) }
  expiring.interruptAll (r.flights.map Flight.id)

/-! ## The end -/

/-- The results of the steps. -/
def stepResults (r : Run) : List StepResult :=
  (Report.sorted r.reports).map fun report => report.result r.plan.moment r.environment

/-- The message of a run that failed: it names the first step, in the order of the pipeline, that
did. -/
def failureMessage (r : Run) (failure : Failure) : String :=
  match (Report.sorted r.reports).find? fun report => report.status == .error with
  | some report =>
    "Step \"" ++ report.item.step.displayName ++ "\" failed: " ++ failure.message
  | none => failure.message

/-- The result of a run that did not complete. -/
def unsuccessful (r : Run) (state : RunState) (failure : Failure) : RunResult where
  success := false
  state := state
  error := some (r.failureMessage failure)
  errorCode := some failure.kind.code
  steps := r.stepResults

/-- The result of a run that completed. -/
def successful (r : Run) (output : Value) : RunResult where
  success := true
  state := .completed
  output := output
  steps := r.stepResults

/-- The result of a run with nothing in flight. -/
def result (r : Run) : Except Trouble RunResult :=
  match r.failure with
  | some failure => .ok (r.unsuccessful .failed failure)
  | none =>
    if r.outputs.size < r.plan.pipeline.steps.length then
      .ok (r.unsuccessful .cancelled runCancelled)
    else
      match r.plan.pipeline.buildOutput (r.outputs.read r.environment) r.inputs with
      | .ok output => .ok (r.successful output)
      | .error fault => .error fault.trouble

/-- Ends a run. -/
def close (r : Run) (ending : Ending) : Run :=
  let state :=
    match ending with
    | .finished result => result.state
    | _ => if r.state.isTerminal then r.state else .failed
  { r with phase := .over ending r.now, state := state, current := [] }

/-- Reports the end of a run with a result. -/
def announce (r : Run) (result : RunResult) : Run :=
  let wait := r.plan.delivery.wait (.done result)
  let r := r.emit (.done result)
  match wait with
  | .none => { r with phase := .closing result none, ready := .finish :: r.ready }
  | .turn => { r with phase := .closing result none }.queue .finish
  | .time micros => { r with phase := .closing result (some (r.now + micros)) }

/-- Ends a run with nothing in flight. -/
def conclude (r : Run) : Run :=
  match r.result with
  | .ok result => r.announce result
  | .error trouble => r.close (.raised trouble)

end Run

end Conduit

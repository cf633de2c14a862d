import Conduit.Run.Basic

/-!
# Runs and the clock

When the moves of a run are made. At one reading of the clock everything that is ready goes on in
order, and the dispatcher acts when nothing is ready. Then the clock jumps to the next reading at
which a step goes on or the time limit is reached. That is one of the orders in which the moves can
come: between two turns the dispatcher may act as well, and readers that are not prompt read when
they like.

* `Run.start` — begins a run;
* `Run.settle` — does all that is to be done at a reading of the clock;
* `Run.nextTime?`, `Run.tick` — the next reading at which something happens, and what happens then;
* `Run.advanceTo`, `Run.finish` — lets the clock go on;
* `Run.cancel`, `Run.abandon` — what the caller of a run can do;
* `Run.readNext`, `Run.hangUp` — what a reader can do that is not prompt.
-/

namespace Conduit.Run

/-! ## One reading of the clock -/

/-- Whether a run is over. -/
def isOver (r : Run) : Bool :=
  match r.phase with
  | .over _ _ => true
  | _ => false

/-- Reads the events that were not read yet. A reader that has read enough closes the stream, which
cancels the run if it is not over by then. -/
def readUpTo : Nat → Run → Run
  | 0, r => r
  | fuel + 1, r =>
    match r.reader with
    | none => r
    | some reader =>
      match reader.closed, reader.unread with
      | true, _ => r
      | false, [] => r
      | false, e :: rest =>
        let left := reader.left.map (· - 1)
        let closed := left == some 0
        let seen := r.sight e none
        readUpTo fuel
          { seen with
            reader := some { reader with unread := rest, left := left, closed := closed }
            cancelled := seen.cancelled || (closed && !seen.isOver) }

/-- Lets a prompt reader read. -/
def read (r : Run) : Run := readUpTo ((r.reader.map fun reader => reader.unread.length).getD 0) r

/-- Ends a run whose end was reported. -/
def finishClosing (r : Run) : Run :=
  match r.phase with
  | .closing result _ => r.close (r.plan.delivery.endingOf result)
  | _ => r

/-- Gives something its turn. -/
def take (r : Run) : Turn → Run
  | .flight id => r.advance id
  | .reader => r.read
  | .finish => r.finishClosing

/-- Gives all that is ready its turn; `fuel` bounds the number of turns. -/
def drainUpTo : Nat → Run → Run
  | 0, r => r
  | fuel + 1, r =>
    match r.ready with
    | [] => r
    | t :: rest => drainUpTo fuel ({ r with ready := rest }.take t)

/-- A bound for the number of turns that are left to what is in flight. Every stage brings at most
one turn for the step and one for the reader. -/
def turnsLeft (r : Run) : Nat :=
  3 * ((r.flights.map fun f => f.stage.left).foldl (· + ·) 0) + r.ready.length + 3

/-- Gives all that is ready its turn. -/
def drain (r : Run) : Run := drainUpTo r.turnsLeft r

/-- Whether the dispatcher has something to do. -/
def wantsDispatcher (r : Run) : Bool :=
  match r.phase with
  | .running =>
    if r.expired.isSome then r.flights.all fun f => f.stage.isEnded
    else r.flights.any (fun f => f.stage.isEnded) || (r.cancelled && !r.heeded)
  | _ => false

/-- Whether nothing is in flight and nothing will be. -/
def isIdle (r : Run) : Bool :=
  match r.phase with
  | .running => r.flights.isEmpty
  | _ => false

/-- Ends a run with nothing in flight. -/
def concludeIfIdle (r : Run) : Run := if r.isIdle then r.conclude else r

/-- One round of the dispatcher. -/
def round (r : Run) : Run :=
  if r.expired.isSome then r.collect.concludeIfIdle else r.heed.collect.dispatch.concludeIfIdle

/-- Lets what is ready and the dispatcher take turns; `fuel` bounds the rounds of the dispatcher. -/
def settleUpTo : Nat → Run → Run
  | 0, r => r.drain
  | fuel + 1, r =>
    let r := r.drain
    if r.wantsDispatcher then settleUpTo fuel r.round else r

/-- Does all that is to be done at a reading of the clock. Every round of the dispatcher but one
takes a step out of flight. -/
def settle (r : Run) : Run := settleUpTo (r.flights.length + r.waiting.length + 2) r

/-! ## Beginning -/

/-- A run before its beginning. -/
def prepare (plan : Plan) (now : Nat) (environment : Environment) (reader : Option Reader)
    (cancelled : Bool) : Run where
  plan := plan
  now := now
  environment := environment
  reader := reader
  cancelled := cancelled

/-- Begins a run with its inputs. -/
def begin (r : Run) (inputs : Members) : Run :=
  let r : Run :=
    { r with
      inputs := inputs
      waiting := r.plan.pipeline.steps
      deadline := r.plan.executor.limit?.map fun limit => r.now + limit.micros }
  r.dispatch.concludeIfIdle

/-- Checks the inputs of a run and begins it. One that lacks inputs fails at once. -/
def enter (plan : Plan) (now : Nat) (environment : Environment) (reader : Option Reader)
    (cancelled : Bool) : Run :=
  let r := prepare plan now environment reader cancelled
  match plan.pipeline.effectiveInputs plan.context with
  | .error fault => r.close (.raised (.fault fault))
  | .ok (.error failure) => r.announce (r.unsuccessful .failed failure)
  | .ok (.ok inputs) =>
    match plan.executor.limit?.bind TimeLimit.sumFault? with
    | some fault => r.close (.raised (.fault fault))
    | none => r.begin inputs

/-- Begins a run and does all that is to be done at once. -/
def start (plan : Plan) (now : Nat) (environment : Environment) (reader : Option Reader)
    (cancelled : Bool) : Run := (enter plan now environment reader cancelled).settle

/-! ## The next reading -/

/-- When the time limit of the run is reached, if that matters any more. -/
def pendingDeadline? (r : Run) : Option Nat :=
  match r.phase with
  | .running => if r.expired.isSome || r.flights.isEmpty then none else r.deadline
  | _ => none

/-- When the listener is done with the end of the run. -/
def closingTime? (r : Run) : Option Nat :=
  match r.phase with
  | .closing _ due => due
  | _ => none

/-- Whether something is left to do at this reading of the clock. -/
def hasWork (r : Run) : Bool := !r.ready.isEmpty || r.wantsDispatcher

/-- The readings of the clock at which something happens. -/
def times (r : Run) : List Nat :=
  (if r.hasWork then [r.now] else []) ++ r.flights.filterMap (·.due) ++ r.pendingDeadline?.toList
    ++ r.closingTime?.toList

/-- The next reading of the clock at which something happens. -/
def nextTime? (r : Run) : Option Nat := r.times.min?

/-- Gives the steps their turn that go on now. -/
def wakeFlights (r : Run) : Run :=
  let due := r.flights.filter fun f => f.due.any fun time => decide (time ≤ r.now)
  { r with
    flights := r.flights.map fun f =>
      if f.due.any fun time => decide (time ≤ r.now) then { f with due := none } else f
    ready := r.ready ++ due.map fun f => .flight f.id }

/-- Gives the end of the run its turn if it comes now. -/
def wakeEnd (r : Run) : Run :=
  match r.phase with
  | .closing result (some due) =>
    if due ≤ r.now then
      { r with phase := .closing result none, ready := r.ready ++ [.finish] }
    else r
  | _ => r

/-- Stops the run if its time limit is reached. -/
def expireIfDue (r : Run) : Run :=
  match r.pendingDeadline?, r.plan.executor.limit? with
  | some deadline, some limit => if deadline ≤ r.now then (r.expire limit).settle else r
  | _, _ => r

/-- What happens at a reading of the clock. -/
def tick (r : Run) (time : Nat) : Run :=
  let r : Run := { r with now := max r.now time }
  r.wakeFlights.wakeEnd.settle.expireIfDue

/-- A bound for the number of readings at which something happens. -/
def ticksLeft (r : Run) : Nat := 6 * (r.waiting.length + r.flights.length) + 4

/-- Lets the clock go on while the next reading is before `limit`, if there is a limit. -/
def advanceUpTo (limit : Option Nat) : Nat → Run → Run
  | 0, r => r
  | fuel + 1, r =>
    match r.nextTime? with
    | none => r
    | some time =>
      if limit.all fun l => decide (time < l) then advanceUpTo limit fuel (r.tick time) else r

/-- Lets the clock go on up to a reading, but not beyond the end of the run. -/
def advanceTo (r : Run) (time : Nat) : Run :=
  let r := advanceUpTo (some time) r.ticksLeft r
  if r.isOver then r else { r with now := max r.now time }

/-- Lets the clock go on until all is done. -/
def finish (r : Run) : Run := advanceUpTo none r.ticksLeft r

/-! ## The caller -/

/-- Asks for a run to be cancelled. The dispatcher heeds it when it is its turn. -/
def cancel (r : Run) : Run := if r.isOver then r else { r with cancelled := true }

/-- Gives up waiting for a run: all that is in flight is interrupted. -/
def abandon (r : Run) : Run :=
  match r.phase with
  | .over _ _ => r
  | .running => (((r.interruptAll (r.flights.map Flight.id)).close .abandoned).drain)
  | .closing _ _ => r.close .abandoned

/-- A reader that is not prompt reads the next event, if there is one. -/
def readNext (r : Run) : Run :=
  match r.reader with
  | none => r
  | some reader =>
    match reader.prompt || reader.closed, reader.unread with
    | false, e :: rest => { r.sight e none with reader := some { reader with unread := rest } }
    | _, _ => r

/-- A reader that is not prompt closes the stream, which cancels the run if it is not over. -/
def hangUp (r : Run) : Run :=
  match r.reader with
  | none => r
  | some reader =>
    if reader.prompt || reader.closed then r
    else { r.cancel with reader := some { reader with closed := true } }

/-- When a run ended, or the clock of one that did not. -/
def endTime (r : Run) : Nat :=
  match r.phase with
  | .over _ time => time
  | _ => r.now

end Conduit.Run

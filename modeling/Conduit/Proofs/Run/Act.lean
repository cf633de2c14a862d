import Conduit.Run.Clock

/-!
# Histories of runs

What can happen to a run, one act at a time and in any order: the clock says which acts are made
when, but most of what is true of runs does not depend on that. An act that is not possible leaves
the run as it is, so every list of acts is a history.

* `Act`, `Run.perform` — an act and what it does;
* `Run.performAll` — a history;
* `Run.lost` — the steps whose reports are lost in a history.
-/

namespace Conduit

/-- What can happen to a run next. -/
inductive Act where
  /-- What is first in line gets its turn. -/
  | turn
  /-- The dispatcher acts. -/
  | round
  /-- A reader that is not prompt reads an event. -/
  | read
  /-- A reader that is not prompt closes the stream. -/
  | hangUp
  /-- The clock goes on to a reading. -/
  | pass (time : Nat)
  /-- What is due is put in line. -/
  | wake
  /-- The time limit of the run stops it. -/
  | expire
  /-- The run is asked to be cancelled. -/
  | cancel
  /-- Others change what connectors act on, which matters to a run until its end is reported. -/
  | share (environment : Environment)
deriving DecidableEq, Inhabited

/-- Whether the end of a step is being reported. -/
def Stage.isClosing : Stage → Bool
  | closing _ _ => true
  | _ => false

/-- Whether the end of a step is being reported to a listener who gives the step up over that. -/
def Stage.isForsaken : Stage → Bool
  | closing _ givenUp => givenUp
  | _ => false

namespace Run

/-! ## Acts -/

/-- Gives its turn to what is first in line. -/
def takeTurn (r : Run) : Run :=
  match r.ready with
  | [] => r
  | t :: rest => { r with ready := rest }.take t

/-- Whether the dispatcher may act next: it has something to do, and what is first in line is not in
the middle of its turn. -/
def dispatcherActs (r : Run) : Bool := r.wantsDispatcher && (r.ready.isEmpty || !r.held)

/-- Whether the dispatcher may find next that the time limit is reached: no step is over, and what
is first in line is not in the middle of its turn. Of the steps that a request to cancel has
interrupted more than one may be, so once it was heeded nothing may be in line at all. -/
def mayExpire (r : Run) : Bool :=
  (r.flights.all fun f => !f.stage.isEnded) && (r.ready.isEmpty || (!r.held && !r.heeded))

/-- The time limit that stops the run now. -/
def limitReached? (r : Run) : Option TimeLimit :=
  match r.pendingDeadline?, r.plan.executor.limit? with
  | some deadline, some limit =>
    if r.mayExpire && decide (deadline ≤ r.now) then some limit else none
  | _, _ => none

/-- The run after others changed what connectors act on. -/
def share (r : Run) (environment : Environment) : Run :=
  match r.phase with
  | .running => { r with environment := environment }
  | _ => r

/-- What an act does. -/
def perform (r : Run) : Act → Run
  | .turn => r.takeTurn
  | .round => if r.dispatcherActs then r.round else r
  | .read => r.readNext
  | .hangUp => r.hangUp
  | .pass time => { r with now := max r.now time }
  | .wake => r.wakeFlights.wakeEnd
  | .expire =>
    match r.limitReached? with
    | some limit => r.expire limit
    | none => r
  | .cancel => r.cancel
  | .share environment => r.share environment

theorem perform_expire {r : Run} {limit : TimeLimit} (h : r.limitReached? = some limit) :
    r.perform .expire = r.expire limit := by
  unfold perform
  rw [h]

theorem perform_expire_of_none {r : Run} (h : r.limitReached? = none) :
    r.perform .expire = r := by
  unfold perform
  rw [h]

/-- What acts do one after the other. -/
def performAll (r : Run) (acts : List Act) : Run := acts.foldl perform r

@[simp] theorem performAll_nil (r : Run) : r.performAll [] = r := rfl

@[simp] theorem performAll_cons (r : Run) (a : Act) (acts : List Act) :
    r.performAll (a :: acts) = (r.perform a).performAll acts := rfl

theorem performAll_append (r : Run) (acts more : List Act) :
    r.performAll (acts ++ more) = (r.performAll acts).performAll more :=
  List.foldl_append

/-- What every act keeps is kept by a history. -/
theorem performAll_induction {motive : Run → Prop} {r : Run} (acts : List Act) (start : motive r)
    (step : ∀ q a, motive q → motive (q.perform a)) : motive (r.performAll acts) := by
  induction acts generalizing r with
  | nil => exact start
  | cons a acts ih => exact ih (step r a start)

/-! ## Lost reports -/

/-- The steps in flight that a request to cancel interrupts. -/
def interruptible (r : Run) : List String :=
  (r.flights.filter fun f => r.plan.executor.mayInterrupt f.item.step).map Flight.id

/-- Those of some steps whose end is being reported. -/
def closingAmong (r : Run) (ids : List String) : List String :=
  ids.filter fun id => (r.flight? id).any fun f => f.stage.isClosing

/-- Whether the dispatcher heeds a request to cancel when it acts next. -/
def heeds (r : Run) : Bool := r.dispatcherActs && r.expired.isNone && r.cancelled && !r.heeded

/-- The step that the listener gives up over its end when what is first in line gets its turn. -/
def forsaken (r : Run) : List String :=
  match r.ready with
  | .flight id :: _ => if (r.flight? id).any fun f => f.stage.isForsaken then [id] else []
  | _ => []

/-- The steps that an act interrupts, or that are given up in it, while their end is being reported.
Their reports are lost. -/
def losses (r : Run) : Act → List String
  | .turn => r.forsaken
  | .round => if r.heeds then r.closingAmong r.interruptible else []
  | .expire => if r.limitReached?.isSome then r.closingAmong (r.flights.map Flight.id) else []
  | _ => []

/-- The steps whose reports are lost in a history. -/
def lost (r : Run) : List Act → List String
  | [] => []
  | a :: acts => r.losses a ++ (r.perform a).lost acts

/-- What every act keeps of a run and of the reports lost so far is kept by a history. -/
theorem lost_induction {motive : Run → List String → Prop} {r : Run} {gone : List String}
    (acts : List Act) (start : motive r gone)
    (step : ∀ q gone a, motive q gone → motive (q.perform a) (gone ++ q.losses a)) :
    motive (r.performAll acts) (gone ++ r.lost acts) := by
  induction acts generalizing r gone with
  | nil => simpa [lost] using start
  | cons a acts ih =>
    have h := ih (step r gone a start)
    rwa [List.append_assoc] at h

end Run

end Conduit

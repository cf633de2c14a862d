import Conduit.Proofs.Run.Act

/-!
# Listeners that fail

A run goes on as if nothing had happened when its listener fails over an event, unless that gives a
step up: what the listener fails with is kept with what it saw, and no move of a run looks there. So
a run and the same run with a listener that gives up the same steps and never fails otherwise, but
takes as long over every event, go through the same states.

* `Plan.failing` — the plan with a listener that fails over some events;
* `Run.mute` — a run without the troubles of its listener that give nothing up;
* `Run.performAll_mute`, `Run.finish_mute` — every move of a run does the same without them.
-/

namespace Conduit

/-- The plan with a listener that takes as long over every event, and fails over it so. -/
def Plan.failing (plan : Plan) (trouble? : RunEvent → Option Trouble) : Plan :=
  { plan with delivery := { plan.delivery with trouble? := trouble? } }

/-- Trouble that gives something up, and nothing else. -/
def Trouble.abort? (trouble : Option Trouble) : Option Trouble :=
  trouble.filter fun t => decide (t = .cancelled)

theorem Trouble.abort?_eq_iff {trouble : Option Trouble} :
    Trouble.abort? trouble = some .cancelled ↔ trouble = some .cancelled := by
  simp [Trouble.abort?, Option.filter_eq_some_iff]

/-- The plan with a listener that gives up the same steps and does not fail otherwise. -/
def Plan.calm (plan : Plan) : Plan :=
  plan.failing fun e => Trouble.abort? (plan.delivery.trouble? e)

theorem Plan.calm_givesUp (plan : Plan) (e : RunEvent) :
    plan.calm.delivery.givesUp e = plan.delivery.givesUp e := by
  unfold Delivery.givesUp
  rw [show plan.calm.delivery.trouble? e = Trouble.abort? (plan.delivery.trouble? e) from rfl]
  simp only [Trouble.abort?_eq_iff]

theorem Plan.calm_endingOf (plan : Plan) (result : RunResult) :
    plan.calm.delivery.endingOf result = plan.delivery.endingOf result := by
  unfold Delivery.endingOf Delivery.givesUpEnd
  rw [show plan.calm.delivery.trouble? (.done result) =
    Trouble.abort? (plan.delivery.trouble? (.done result)) from rfl]
  simp only [Trouble.abort?_eq_iff]

/-- Listeners that give up the same steps are the same when they do not fail otherwise. -/
theorem Plan.calm_failing {plan : Plan} {trouble? : RunEvent → Option Trouble}
    (same : ∀ e, trouble? e = some .cancelled ↔ plan.delivery.trouble? e = some .cancelled) :
    (plan.failing trouble?).calm = plan.calm := by
  have htrouble : ∀ e, Trouble.abort? (trouble? e) = Trouble.abort? (plan.delivery.trouble? e) := by
    intro e
    have hkept : ∀ t : Option Trouble, ∀ u, Trouble.abort? t = some u → u = .cancelled := by
      intro t u h
      simpa using (Option.filter_eq_some_iff.1 h).2
    refine Option.ext fun u => ?_
    constructor
    · intro h
      obtain rfl := hkept _ u h
      exact Trouble.abort?_eq_iff.2 ((same e).1 (Trouble.abort?_eq_iff.1 h))
    · intro h
      obtain rfl := hkept _ u h
      exact Trouble.abort?_eq_iff.2 ((same e).2 (Trouble.abort?_eq_iff.1 h))
  unfold calm failing
  dsimp only
  rw [funext htrouble]

/-- What a listener saw, without trouble that gave nothing up. -/
def Sighting.mute (s : Sighting) : Sighting := { s with trouble := Trouble.abort? s.trouble }

namespace Run

/-- A run without the troubles of its listener that give nothing up. -/
def mute (r : Run) : Run :=
  { r with
    plan := r.plan.calm
    sightings := r.sightings.map Sighting.mute }

/-! ## Events -/

theorem sight_mute (r : Run) (e : RunEvent) (trouble : Option Trouble) :
    (r.sight e trouble).mute = r.mute.sight e (Trouble.abort? trouble) := by
  unfold mute sight
  dsimp only
  rw [List.map_append]
  rfl

theorem queue_mute (r : Run) (t : Turn) : (r.queue t).mute = r.mute.queue t := by
  unfold queue
  by_cases hin : t ∈ r.ready
  · rw [if_pos hin, if_pos (show t ∈ r.mute.ready from hin)]
  · rw [if_neg hin, if_neg (show t ∉ r.mute.ready from hin)]
    rfl

theorem deliver_mute (r : Run) (e : RunEvent) : (r.deliver e).mute = r.mute.deliver e := by
  have hreader : r.mute.reader = r.reader := rfl
  unfold deliver
  rw [hreader]
  cases r.reader with
  | none => exact sight_mute r e _
  | some reader =>
    dsimp only
    cases reader.closed with
    | true => rfl
    | false =>
      cases reader.prompt with
      | true => exact queue_mute _ _
      | false => rfl

theorem emit_mute (r : Run) (e : RunEvent) : (r.emit e).mute = r.mute.emit e := by
  unfold emit
  rw [deliver_mute]
  cases e <;> rfl

/-! ## Steps in flight -/

theorem enterStage_mute (r : Run) (f : Flight) (stage : Stage) (wait : Wait) :
    (r.enterStage f stage wait).mute = r.mute.enterStage f stage wait := by
  cases wait with
  | none => rfl
  | turn => exact queue_mute _ _
  | time micros => rfl

theorem announceStage_mute (r : Run) (f : Flight) (e : RunEvent) (stage : Bool → Stage) :
    (r.announceStage f e stage).mute = r.mute.announceStage f e stage := by
  unfold announceStage
  rw [enterStage_mute, emit_mute, show r.mute.plan = r.plan.calm from rfl, Plan.calm_givesUp]
  rfl

theorem stopFlight_mute (r : Run) (f : Flight) (status : StepStatus) (failure : Failure) :
    (r.stopFlight f status failure).mute = r.mute.stopFlight f status failure :=
  announceStage_mute _ _ _ _

theorem cutFlight_mute (r : Run) (f : Flight) : (r.cutFlight f).mute = r.mute.cutFlight f :=
  stopFlight_mute _ _ _ _

theorem completeFlight_mute (r : Run) (f : Flight) (output : Output) :
    (r.completeFlight f output).mute = r.mute.completeFlight f output := by
  unfold completeFlight
  rw [show r.mute.outputs = r.outputs from rfl]
  cases r.outputs.record f.id output with
  | error fault => exact stopFlight_mute _ _ _ _
  | ok outputs => exact announceStage_mute _ _ _ _

theorem prepareFlight_mute (r : Run) (f : Flight) :
    (r.prepareFlight f).mute = r.mute.prepareFlight f := by
  unfold prepareFlight
  rw [show r.mute.plan.executor = r.plan.executor from rfl,
    show r.mute.outputs.read r.mute.environment = r.outputs.read r.environment from rfl,
    show r.mute.inputs = r.inputs from rfl]
  cases f.item.mapper.build (r.outputs.read r.environment) r.inputs with
  | error fault => exact stopFlight_mute _ _ _ _
  | ok input =>
    dsimp only
    cases r.plan.executor.registry.connectorOf f.item.step with
    | error failure => exact stopFlight_mute _ _ _ _
    | ok connector =>
      dsimp only
      cases r.plan.executor.stepLimit? with
      | none => exact enterStage_mute _ _ _ _
      | some limit =>
        dsimp only
        cases limit.callFault? with
        | some fault => exact stopFlight_mute _ _ _ _
        | none => exact enterStage_mute _ _ _ _

theorem beginCall_mute (r : Run) (f : Flight) (input : Value) (connector : Connector) :
    (r.beginCall f input connector).mute = r.mute.beginCall f input connector := by
  unfold beginCall
  rw [show r.mute.plan.context = r.plan.context from rfl,
    show r.mute.environment = r.environment from rfl]
  dsimp only
  rw [show ∀ e, (r.mute.afterCall e).plan.executor = r.plan.executor from fun _ => rfl,
    show ∀ e, (r.afterCall e).plan.executor = r.plan.executor from fun _ => rfl]
  cases r.plan.executor.stepLimit? with
  | none => exact enterStage_mute _ _ _ _
  | some limit =>
    dsimp only
    split
    · exact enterStage_mute _ _ _ _
    · exact enterStage_mute _ _ _ _

theorem callFlight_mute (r : Run) (f : Flight) (input : Value) (connector : Connector) :
    (r.callFlight f input connector).mute = r.mute.callFlight f input connector := by
  unfold callFlight
  rw [show r.mute.plan.executor = r.plan.executor from rfl]
  cases r.plan.executor.stepLimit? with
  | none => exact beginCall_mute _ _ _ _
  | some limit =>
    dsimp only
    split
    · exact beginCall_mute _ _ _ _
    · exact stopFlight_mute _ _ _ _

theorem takeAnswer_mute (r : Run) (f : Flight) (call : Call) :
    (r.takeAnswer f call).mute = r.mute.takeAnswer f call := by
  unfold takeAnswer
  rw [show r.mute.environment = r.environment from rfl]
  dsimp only
  cases (call.finish r.environment).2 with
  | error trouble => cases trouble <;> exact stopFlight_mute _ _ _ _
  | ok output =>
    cases output with
    | uncopyable fault => exact stopFlight_mute _ _ _ _
    | value v => exact completeFlight_mute _ _ _
    | shared => exact completeFlight_mute _ _ _

theorem answerFlight_mute (r : Run) (f : Flight) (call : Call) (overdue : Bool) :
    (r.answerFlight f call overdue).mute = r.mute.answerFlight f call overdue := by
  unfold answerFlight
  rw [show r.mute.plan.executor = r.plan.executor from rfl]
  cases overdue with
  | false => exact takeAnswer_mute _ _ _
  | true =>
    cases r.plan.executor.stepLimit? with
    | none => exact takeAnswer_mute _ _ _
    | some limit => exact stopFlight_mute _ _ _ _

theorem advance_mute (r : Run) (id : String) : (r.advance id).mute = r.mute.advance id := by
  unfold advance
  rw [show r.mute.flight? id = r.flight? id from rfl]
  cases r.flight? id with
  | none => rfl
  | some f =>
    dsimp only
    cases f.stage with
    | queued => exact announceStage_mute _ _ _ _
    | opening givenUp =>
      cases givenUp with
      | true => exact cutFlight_mute _ _
      | false => exact prepareFlight_mute _ _
    | entering input connector => exact callFlight_mute _ _ _ _
    | calling call overdue => exact answerFlight_mute _ _ _ _
    | closing report givenUp => rfl
    | ended report => rfl

theorem interrupt_mute (r : Run) (id : String) : (r.interrupt id).mute = r.mute.interrupt id := by
  unfold interrupt
  rw [show r.mute.flight? id = r.flight? id from rfl]
  cases r.flight? id with
  | none => rfl
  | some f =>
    dsimp only
    cases f.stage with
    | queued => rfl
    | closing report givenUp => rfl
    | ended report => rfl
    | opening givenUp => exact cutFlight_mute _ _
    | entering input connector => exact cutFlight_mute _ _
    | calling call overdue => exact cutFlight_mute _ _

theorem interruptAll_mute (ids : List String) :
    ∀ r : Run, (r.interruptAll ids).mute = r.mute.interruptAll ids := by
  induction ids with
  | nil => exact fun _ => rfl
  | cons id ids ih =>
    intro r
    show ((r.interrupt id).interruptAll ids).mute = (r.mute.interrupt id).interruptAll ids
    rw [ih, interrupt_mute]

/-! ## The dispatcher -/

theorem dispatchUpTo_mute (fuel : Nat) (r : Run) :
    (dispatchUpTo fuel r).mute = dispatchUpTo fuel r.mute := by
  induction fuel generalizing r with
  | zero => rfl
  | succ fuel ih =>
    rw [dispatchUpTo, dispatchUpTo, show r.mute.mayDispatch = r.mayDispatch from rfl,
      show r.mute.waiting.find? r.mute.isReady = r.waiting.find? r.isReady from rfl]
    cases r.mayDispatch with
    | false => rfl
    | true =>
      rw [if_pos rfl, if_pos rfl]
      cases r.waiting.find? r.isReady with
      | none => rfl
      | some s => exact ih (r.launch s)

theorem note_mute (r : Run) (report : Option Report) : (r.note report).mute = r.mute.note report := by
  cases report with
  | none => rfl
  | some x =>
    unfold note
    dsimp only
    cases x.status <;> rfl

theorem collect_mute (r : Run) : r.collect.mute = r.mute.collect := by
  have hfold : ∀ (endings : List (Option Report)) (q : Run),
      (endings.foldl note q).mute = endings.foldl note q.mute := by
    intro endings
    induction endings with
    | nil => exact fun _ => rfl
    | cons ending rest ih =>
      intro q
      rw [List.foldl_cons, List.foldl_cons, ih, note_mute]
  exact hfold _ _

theorem heed_mute (r : Run) : r.heed.mute = r.mute.heed := by
  unfold heed
  rw [show r.mute.cancelled = r.cancelled from rfl, show r.mute.heeded = r.heeded from rfl]
  cases r.cancelled && !r.heeded with
  | false => rfl
  | true => exact interruptAll_mute _ _

theorem announce_mute (r : Run) (result : RunResult) :
    (r.announce result).mute = r.mute.announce result := by
  unfold announce
  rw [← emit_mute, show r.mute.plan.delivery.wait = r.plan.delivery.wait from rfl]
  dsimp only
  cases r.plan.delivery.wait (.done result) with
  | none => rfl
  | turn => exact queue_mute _ _
  | time micros => rfl

theorem conclude_mute (r : Run) : r.conclude.mute = r.mute.conclude := by
  unfold conclude
  rw [show r.mute.result = r.result from rfl]
  cases r.result with
  | ok result => exact announce_mute _ _
  | error trouble => rfl

theorem concludeIfIdle_mute (r : Run) : r.concludeIfIdle.mute = r.mute.concludeIfIdle := by
  unfold concludeIfIdle
  rw [show r.mute.isIdle = r.isIdle from rfl]
  cases r.isIdle with
  | true => exact conclude_mute r
  | false => rfl

theorem round_mute (r : Run) : r.round.mute = r.mute.round := by
  unfold round dispatch
  rw [show r.mute.expired = r.expired from rfl, ← heed_mute, ← collect_mute, ← collect_mute]
  cases r.expired.isSome with
  | true => exact concludeIfIdle_mute r.collect
  | false =>
    rw [if_neg Bool.false_ne_true, if_neg Bool.false_ne_true, concludeIfIdle_mute,
      dispatchUpTo_mute]
    rfl

/-! ## Turns and acts -/

theorem readUpTo_mute (fuel : Nat) (r : Run) : (readUpTo fuel r).mute = readUpTo fuel r.mute := by
  induction fuel generalizing r with
  | zero => rfl
  | succ fuel ih =>
    rw [readUpTo, readUpTo, show r.mute.reader = r.reader from rfl]
    cases r.reader with
    | none => rfl
    | some reader =>
      dsimp only
      cases reader.closed with
      | true => rfl
      | false =>
        cases reader.unread with
        | nil => rfl
        | cons e rest =>
          dsimp only
          rw [ih, show r.mute.sight e none = (r.sight e none).mute from (sight_mute r e none).symm]
          rfl

theorem take_mute (r : Run) (t : Turn) : (r.take t).mute = r.mute.take t := by
  cases t with
  | flight id => exact advance_mute r id
  | reader => exact readUpTo_mute _ _
  | finish =>
    show r.finishClosing.mute = r.mute.finishClosing
    unfold finishClosing
    rw [show r.mute.phase = r.phase from rfl, show r.mute.plan = r.plan.calm from rfl]
    cases r.phase with
    | closing result due =>
      dsimp only
      rw [Plan.calm_endingOf]
      rfl
    | running | «over» => rfl

theorem takeTurn_mute (r : Run) : r.takeTurn.mute = r.mute.takeTurn := by
  unfold takeTurn
  rw [show r.mute.ready = r.ready from rfl]
  cases r.ready with
  | nil => rfl
  | cons t rest => exact take_mute { r with ready := rest } t

theorem readNext_mute (r : Run) : r.readNext.mute = r.mute.readNext := by
  unfold readNext
  rw [show r.mute.reader = r.reader from rfl]
  cases r.reader with
  | none => rfl
  | some reader =>
    dsimp only
    cases reader.prompt || reader.closed with
    | true => rfl
    | false =>
      cases reader.unread with
      | nil => rfl
      | cons e rest =>
        dsimp only
        rw [show r.mute.sight e none = (r.sight e none).mute from (sight_mute r e none).symm]
        rfl

theorem wake_mute (r : Run) : r.wakeFlights.wakeEnd.mute = r.mute.wakeFlights.wakeEnd := by
  unfold wakeEnd
  rw [show r.mute.wakeFlights.phase = r.wakeFlights.phase from rfl]
  split
  · rw [show r.mute.wakeFlights.now = r.wakeFlights.now from rfl]
    split <;> rfl
  · rfl

theorem expire_mute (r : Run) (limit : TimeLimit) : (r.expire limit).mute = r.mute.expire limit :=
  interruptAll_mute _ _

theorem cancel_mute (r : Run) : r.cancel.mute = r.mute.cancel := by
  unfold cancel
  rw [show r.mute.isOver = r.isOver from rfl]
  cases r.isOver <;> rfl

theorem hangUp_mute (r : Run) : r.hangUp.mute = r.mute.hangUp := by
  unfold hangUp
  rw [← cancel_mute, show r.mute.reader = r.reader from rfl]
  cases r.reader with
  | none => rfl
  | some reader =>
    dsimp only
    split <;> rfl

theorem share_mute (r : Run) (environment : Environment) :
    (r.share environment).mute = r.mute.share environment := by
  unfold share
  rw [show r.mute.phase = r.phase from rfl]
  cases r.phase <;> rfl

/-- Every act does the same without troubles of the listener that give nothing up. -/
theorem perform_mute (r : Run) (a : Act) : (r.perform a).mute = r.mute.perform a := by
  cases a with
  | turn => exact takeTurn_mute r
  | round =>
    show (if r.dispatcherActs then r.round else r).mute =
      if r.dispatcherActs then r.mute.round else r.mute
    cases r.dispatcherActs with
    | true => exact round_mute r
    | false => rfl
  | read => exact readNext_mute r
  | hangUp => exact hangUp_mute r
  | pass time => rfl
  | wake => exact wake_mute r
  | expire =>
    have hreached : r.mute.limitReached? = r.limitReached? := rfl
    cases hlimit : r.limitReached? with
    | none => rw [perform_expire_of_none hlimit, perform_expire_of_none (hreached.trans hlimit)]
    | some limit =>
      rw [perform_expire hlimit, perform_expire (hreached.trans hlimit)]
      exact expire_mute r limit
  | cancel => exact cancel_mute r
  | share environment => exact share_mute r environment

/-- A history does the same without troubles of the listener that give nothing up. -/
theorem performAll_mute (r : Run) (acts : List Act) :
    (r.performAll acts).mute = r.mute.performAll acts := by
  induction acts generalizing r with
  | nil => rfl
  | cons a acts ih => rw [performAll_cons, performAll_cons, ih, perform_mute]

/-! ## The clock -/

theorem drainUpTo_mute (fuel : Nat) (r : Run) : (drainUpTo fuel r).mute = drainUpTo fuel r.mute := by
  induction fuel generalizing r with
  | zero => rfl
  | succ fuel ih =>
    rw [drainUpTo, drainUpTo, show r.mute.ready = r.ready from rfl]
    cases r.ready with
    | nil => rfl
    | cons t rest =>
      dsimp only
      rw [ih, take_mute]
      rfl

theorem settleUpTo_mute (fuel : Nat) (r : Run) :
    (settleUpTo fuel r).mute = settleUpTo fuel r.mute := by
  have hdrain : ∀ q : Run, q.drain.mute = q.mute.drain := fun q => drainUpTo_mute q.turnsLeft q
  induction fuel generalizing r with
  | zero => exact hdrain r
  | succ fuel ih =>
    rw [settleUpTo, settleUpTo, ← hdrain,
      show r.drain.mute.wantsDispatcher = r.drain.wantsDispatcher from rfl]
    cases r.drain.wantsDispatcher with
    | true =>
      rw [if_pos rfl, if_pos rfl, ih, round_mute]
    | false => rfl

theorem settle_mute (r : Run) : r.settle.mute = r.mute.settle := settleUpTo_mute _ r

theorem tick_mute (r : Run) (time : Nat) : (r.tick time).mute = r.mute.tick time := by
  have hexpire : ∀ q : Run, q.expireIfDue.mute = q.mute.expireIfDue := by
    intro q
    unfold expireIfDue
    rw [show q.mute.pendingDeadline? = q.pendingDeadline? from rfl,
      show q.mute.plan.executor = q.plan.executor from rfl,
      show q.mute.now = q.now from rfl]
    split
    · split
      · rw [settle_mute, expire_mute]
      · rfl
    · rfl
  unfold tick
  dsimp only
  rw [hexpire, settle_mute, wake_mute]
  rfl

theorem advanceUpTo_mute (limit : Option Nat) (fuel : Nat) (r : Run) :
    (advanceUpTo limit fuel r).mute = advanceUpTo limit fuel r.mute := by
  induction fuel generalizing r with
  | zero => rfl
  | succ fuel ih =>
    rw [advanceUpTo, advanceUpTo, show r.mute.nextTime? = r.nextTime? from rfl]
    cases r.nextTime? with
    | none => rfl
    | some time =>
      dsimp only
      split
      · rw [ih, tick_mute]
      · rfl

/-- A run that goes on until all is done does the same without the troubles of its
listener that give nothing up. -/
theorem finish_mute (r : Run) : r.finish.mute = r.mute.finish := advanceUpTo_mute none _ r

/-- So does a run at its entry. -/
theorem enter_mute (plan : Plan) (now : Nat) (environment : Environment) (reader : Option Reader)
    (cancelled : Bool) :
    (enter plan now environment reader cancelled).mute =
      enter plan.calm now environment reader cancelled := by
  unfold enter
  rw [show plan.calm.pipeline = plan.pipeline from rfl,
    show plan.calm.context = plan.context from rfl,
    show plan.calm.executor = plan.executor from rfl]
  dsimp only
  cases plan.pipeline.effectiveInputs plan.context with
  | error fault => rfl
  | ok checked =>
    cases checked with
    | error failure => exact announce_mute _ _
    | ok inputs =>
      dsimp only
      cases plan.executor.limit?.bind TimeLimit.sumFault? with
      | some fault => rfl
      | none =>
        unfold begin dispatch
        dsimp only
        rw [concludeIfIdle_mute, dispatchUpTo_mute]
        rfl

end Run

end Conduit

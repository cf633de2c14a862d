import Conduit.Proofs.Run.Act

/-!
# Runs that nobody listens to

A run goes on as if nobody listened, as long as nobody who reads its events closes the stream: what
a listener sees and a reader reads is kept aside, and the turns of the reader are its own. So a run
that is called back, a run that is read as a stream and the same run without either go through the
same states.

* `Run.unheard` — a run without its listener and its reader;
* `Run.advance_unheard`, `Run.round_unheard`, `Run.expire_unheard` — every move of a run does the
  same without them.
-/

namespace Conduit.Run

/-- Those in line but the reader. -/
def others (line : List Turn) : List Turn := line.filter fun t => t != .reader

theorem mem_others {line : List Turn} {t : Turn} (other : t ≠ .reader) :
    t ∈ others line ↔ t ∈ line := by
  unfold others
  rw [List.mem_filter, bne_iff_ne]
  exact and_iff_left other

theorem others_cons {line : List Turn} {t : Turn} (other : t ≠ .reader) :
    others (t :: line) = t :: others line := List.filter_cons_of_pos (by simpa using other)

theorem others_cons_reader (line : List Turn) : others (.reader :: line) = others line :=
  List.filter_cons_of_neg (by simp)

theorem others_append_of_ne {line more : List Turn} (other : ∀ t ∈ more, t ≠ .reader) :
    others (line ++ more) = others line ++ more := by
  unfold others
  rw [List.filter_append]
  exact congrArg _ (List.filter_eq_self.2 fun t ht => by simpa using other t ht)

theorem others_append_reader (line : List Turn) : others (line ++ [.reader]) = others line := by
  unfold others
  rw [List.filter_append]
  exact List.append_nil _

/-- A run without its listener and its reader, and without the turns of the reader. -/
def unheard (r : Run) : Run :=
  { r with reader := some { closed := true }, sightings := [], ready := others r.ready }

/-- What is done to the line of a run is done to that of the run without its reader. -/
theorem unheard_ready (r : Run) {line line' : List Turn} (h : others line = line') :
    ({ r with ready := line } : Run).unheard = { r.unheard with ready := line' } :=
  congrArg (fun ready => { r.unheard with ready := ready }) h

/-! ## Events -/

theorem queue_unheard (r : Run) {t : Turn} (other : t ≠ .reader) :
    (r.queue t).unheard = r.unheard.queue t := by
  unfold queue
  by_cases hin : t ∈ r.ready
  · rw [if_pos hin, if_pos (show t ∈ r.unheard.ready from (mem_others other).2 hin)]
  · rw [if_neg hin, if_neg (show t ∉ r.unheard.ready from fun h => hin ((mem_others other).1 h))]
    refine unheard_ready r (others_append_of_ne fun u hu => ?_)
    rwa [List.mem_singleton.1 hu]

theorem queue_reader_unheard (r : Run) : (r.queue .reader).unheard = r.unheard := by
  unfold queue
  split
  · rfl
  · exact unheard_ready r (others_append_reader r.ready)

theorem deliver_unheard (r : Run) (e : RunEvent) : (r.deliver e).unheard = r.unheard := by
  unfold deliver
  cases r.reader with
  | none => rfl
  | some reader =>
    dsimp only
    cases reader.closed with
    | true => rfl
    | false =>
      cases reader.prompt with
      | true => exact queue_reader_unheard _
      | false => rfl

theorem emit_unheard (r : Run) (e : RunEvent) : (r.emit e).unheard = r.unheard.emit e := by
  unfold emit
  rw [deliver_unheard]
  cases e <;> rfl

/-! ## Steps in flight -/

theorem enterStage_unheard (r : Run) (f : Flight) (stage : Stage) (wait : Wait) :
    (r.enterStage f stage wait).unheard = r.unheard.enterStage f stage wait := by
  cases wait with
  | none => rfl
  | turn => exact queue_unheard _ Turn.noConfusion
  | time micros => rfl

theorem announceStage_unheard (r : Run) (f : Flight) (e : RunEvent) (stage : Bool → Stage) :
    (r.announceStage f e stage).unheard = r.unheard.announceStage f e stage := by
  unfold announceStage
  rw [enterStage_unheard, emit_unheard]
  rfl

theorem stopFlight_unheard (r : Run) (f : Flight) (status : StepStatus) (failure : Failure) :
    (r.stopFlight f status failure).unheard = r.unheard.stopFlight f status failure :=
  announceStage_unheard _ _ _ _

theorem cutFlight_unheard (r : Run) (f : Flight) : (r.cutFlight f).unheard = r.unheard.cutFlight f :=
  stopFlight_unheard _ _ _ _

theorem completeFlight_unheard (r : Run) (f : Flight) (output : Output) :
    (r.completeFlight f output).unheard = r.unheard.completeFlight f output := by
  unfold completeFlight
  rw [show r.unheard.outputs = r.outputs from rfl]
  cases r.outputs.record f.id output with
  | error fault => exact stopFlight_unheard _ _ _ _
  | ok outputs => exact announceStage_unheard _ _ _ _

theorem prepareFlight_unheard (r : Run) (f : Flight) :
    (r.prepareFlight f).unheard = r.unheard.prepareFlight f := by
  unfold prepareFlight
  rw [show r.unheard.plan = r.plan from rfl,
    show r.unheard.outputs.read r.unheard.environment = r.outputs.read r.environment from rfl,
    show r.unheard.inputs = r.inputs from rfl]
  cases f.item.mapper.build (r.outputs.read r.environment) r.inputs with
  | error fault => exact stopFlight_unheard _ _ _ _
  | ok input =>
    dsimp only
    cases r.plan.executor.registry.connectorOf f.item.step with
    | error failure => exact stopFlight_unheard _ _ _ _
    | ok connector =>
      dsimp only
      cases r.plan.executor.stepLimit? with
      | none => exact enterStage_unheard _ _ _ _
      | some limit =>
        dsimp only
        cases limit.callFault? with
        | some fault => exact stopFlight_unheard _ _ _ _
        | none => exact enterStage_unheard _ _ _ _

theorem beginCall_unheard (r : Run) (f : Flight) (input : Value) (connector : Connector) :
    (r.beginCall f input connector).unheard = r.unheard.beginCall f input connector := by
  unfold beginCall
  rw [show r.unheard.plan.context = r.plan.context from rfl,
    show r.unheard.environment = r.environment from rfl]
  dsimp only
  rw [show ∀ e, (r.unheard.afterCall e).plan.executor = r.plan.executor from fun _ => rfl,
    show ∀ e, (r.afterCall e).plan.executor = r.plan.executor from fun _ => rfl]
  cases r.plan.executor.stepLimit? with
  | none => exact enterStage_unheard _ _ _ _
  | some limit =>
    dsimp only
    split
    · exact enterStage_unheard _ _ _ _
    · exact enterStage_unheard _ _ _ _

theorem callFlight_unheard (r : Run) (f : Flight) (input : Value) (connector : Connector) :
    (r.callFlight f input connector).unheard = r.unheard.callFlight f input connector := by
  unfold callFlight
  rw [show r.unheard.plan.executor = r.plan.executor from rfl]
  cases r.plan.executor.stepLimit? with
  | none => exact beginCall_unheard _ _ _ _
  | some limit =>
    dsimp only
    split
    · exact beginCall_unheard _ _ _ _
    · exact stopFlight_unheard _ _ _ _

theorem takeAnswer_unheard (r : Run) (f : Flight) (call : Call) :
    (r.takeAnswer f call).unheard = r.unheard.takeAnswer f call := by
  unfold takeAnswer
  rw [show r.unheard.environment = r.environment from rfl]
  dsimp only
  cases (call.finish r.environment).2 with
  | error trouble => cases trouble <;> exact stopFlight_unheard _ _ _ _
  | ok output =>
    cases output with
    | uncopyable fault => exact stopFlight_unheard _ _ _ _
    | value v => exact completeFlight_unheard _ _ _
    | shared => exact completeFlight_unheard _ _ _

theorem answerFlight_unheard (r : Run) (f : Flight) (call : Call) (overdue : Bool) :
    (r.answerFlight f call overdue).unheard = r.unheard.answerFlight f call overdue := by
  unfold answerFlight
  rw [show r.unheard.plan.executor = r.plan.executor from rfl]
  cases overdue with
  | false => exact takeAnswer_unheard _ _ _
  | true =>
    cases r.plan.executor.stepLimit? with
    | none => exact takeAnswer_unheard _ _ _
    | some limit => exact stopFlight_unheard _ _ _ _

theorem advance_unheard (r : Run) (id : String) :
    (r.advance id).unheard = r.unheard.advance id := by
  unfold advance
  rw [show r.unheard.flight? id = r.flight? id from rfl]
  cases r.flight? id with
  | none => rfl
  | some f =>
    dsimp only
    cases f.stage with
    | queued => exact announceStage_unheard _ _ _ _
    | opening givenUp =>
      cases givenUp with
      | true => exact cutFlight_unheard _ _
      | false => exact prepareFlight_unheard _ _
    | entering input connector => exact callFlight_unheard _ _ _ _
    | calling call overdue => exact answerFlight_unheard _ _ _ _
    | closing report givenUp => rfl
    | ended report => rfl

theorem dropTurn_unheard (r : Run) (id : String) :
    (r.dropTurn id).unheard = r.unheard.dropTurn id := by
  refine unheard_ready r ?_
  show ((r.ready.filter _).filter _ : List Turn) = (r.ready.filter _).filter _
  rw [List.filter_filter, List.filter_filter]
  exact List.filter_congr fun t _ => Bool.and_comm _ _

theorem interrupt_unheard (r : Run) (id : String) :
    (r.interrupt id).unheard = r.unheard.interrupt id := by
  unfold interrupt
  rw [show r.unheard.flight? id = r.flight? id from rfl, ← dropTurn_unheard]
  cases r.flight? id with
  | none => rfl
  | some f =>
    dsimp only
    cases f.stage with
    | queued => rfl
    | closing report givenUp => rfl
    | ended report => rfl
    | opening givenUp => exact cutFlight_unheard _ _
    | entering input connector => exact cutFlight_unheard _ _
    | calling call overdue => exact cutFlight_unheard _ _

theorem interruptAll_unheard (ids : List String) :
    ∀ r : Run, (r.interruptAll ids).unheard = r.unheard.interruptAll ids := by
  induction ids with
  | nil => exact fun _ => rfl
  | cons id ids ih =>
    intro r
    show ((r.interrupt id).interruptAll ids).unheard = (r.unheard.interrupt id).interruptAll ids
    rw [ih, interrupt_unheard]

theorem expire_unheard (r : Run) (limit : TimeLimit) :
    (r.expire limit).unheard = r.unheard.expire limit :=
  interruptAll_unheard _ _

/-! ## The dispatcher -/

theorem launch_unheard (r : Run) (s : PipelineStep) :
    (r.launch s).unheard = r.unheard.launch s := by
  refine unheard_ready (r.launch s) (others_append_of_ne fun t ht => ?_)
  rw [List.mem_singleton.1 ht]
  exact Turn.noConfusion

theorem dispatchUpTo_unheard (fuel : Nat) (r : Run) :
    (dispatchUpTo fuel r).unheard = dispatchUpTo fuel r.unheard := by
  induction fuel generalizing r with
  | zero => rfl
  | succ fuel ih =>
    rw [dispatchUpTo, dispatchUpTo, show r.unheard.mayDispatch = r.mayDispatch from rfl,
      show r.unheard.waiting.find? r.unheard.isReady = r.waiting.find? r.isReady from rfl]
    cases r.mayDispatch with
    | false => rfl
    | true =>
      rw [if_pos rfl, if_pos rfl]
      cases r.waiting.find? r.isReady with
      | none => rfl
      | some s =>
        dsimp only
        rw [ih, launch_unheard]

theorem note_unheard (r : Run) (report : Option Report) :
    (r.note report).unheard = r.unheard.note report := by
  cases report with
  | none => rfl
  | some x =>
    unfold note
    dsimp only
    cases x.status <;> rfl

theorem collect_unheard (r : Run) : r.collect.unheard = r.unheard.collect := by
  have hfold : ∀ (endings : List (Option Report)) (q : Run),
      (endings.foldl note q).unheard = endings.foldl note q.unheard := by
    intro endings
    induction endings with
    | nil => exact fun _ => rfl
    | cons ending rest ih =>
      intro q
      rw [List.foldl_cons, List.foldl_cons, ih, note_unheard]
  exact hfold _ _

theorem heed_unheard (r : Run) : r.heed.unheard = r.unheard.heed := by
  unfold heed
  rw [show r.unheard.cancelled = r.cancelled from rfl, show r.unheard.heeded = r.heeded from rfl]
  cases r.cancelled && !r.heeded with
  | false => rfl
  | true => exact interruptAll_unheard _ _

theorem announce_unheard (r : Run) (result : RunResult) :
    (r.announce result).unheard = r.unheard.announce result := by
  unfold announce
  rw [← emit_unheard, show r.unheard.plan = r.plan from rfl]
  dsimp only
  cases r.plan.delivery.wait (.done result) with
  | none => rfl
  | turn => exact queue_unheard _ Turn.noConfusion
  | time micros => rfl

theorem conclude_unheard (r : Run) : r.conclude.unheard = r.unheard.conclude := by
  unfold conclude
  rw [show r.unheard.result = r.result from rfl]
  cases r.result with
  | ok result => exact announce_unheard _ _
  | error trouble => rfl

theorem concludeIfIdle_unheard (r : Run) :
    r.concludeIfIdle.unheard = r.unheard.concludeIfIdle := by
  unfold concludeIfIdle
  rw [show r.unheard.isIdle = r.isIdle from rfl]
  cases r.isIdle with
  | true => exact conclude_unheard r
  | false => rfl

theorem round_unheard (r : Run) : r.round.unheard = r.unheard.round := by
  unfold round dispatch
  rw [show r.unheard.expired = r.expired from rfl, ← heed_unheard, ← collect_unheard,
    ← collect_unheard]
  cases r.expired.isSome with
  | true => exact concludeIfIdle_unheard r.collect
  | false =>
    rw [if_neg Bool.false_ne_true, if_neg Bool.false_ne_true, concludeIfIdle_unheard,
      dispatchUpTo_unheard]
    rfl

/-! ## The clock -/

theorem wakeFlights_unheard (r : Run) : r.wakeFlights.unheard = r.unheard.wakeFlights := by
  refine unheard_ready r.wakeFlights (others_append_of_ne fun t ht => ?_)
  obtain ⟨f, -, rfl⟩ := List.mem_map.1 ht
  exact Turn.noConfusion

theorem wakeEnd_unheard (r : Run) : r.wakeEnd.unheard = r.unheard.wakeEnd := by
  unfold wakeEnd
  rw [show r.unheard.phase = r.phase from rfl, show r.unheard.now = r.now from rfl]
  split
  · next result due _ =>
    split
    · refine unheard_ready { r with phase := .closing result none }
        (others_append_of_ne fun t ht => ?_)
      rw [List.mem_singleton.1 ht]
      exact Turn.noConfusion
    · rfl
  · rfl

theorem finishClosing_unheard (r : Run) : r.finishClosing.unheard = r.unheard.finishClosing := by
  unfold finishClosing
  rw [show r.unheard.phase = r.phase from rfl]
  cases r.phase <;> rfl

/-- A run at its entry has neither a listener nor a reader, but for what it has told. -/
theorem enter_unheard (plan : Plan) (now : Nat) (environment : Environment)
    (reader : Option Reader) (cancelled : Bool) :
    (enter plan now environment reader cancelled).unheard =
      enter plan now environment (some { closed := true }) cancelled := by
  have hfresh : (prepare plan now environment reader cancelled).unheard =
      prepare plan now environment (some { closed := true }) cancelled := rfl
  unfold enter
  dsimp only
  cases plan.pipeline.effectiveInputs plan.context with
  | error fault => rfl
  | ok checked =>
    cases checked with
    | error failure => exact announce_unheard _ _
    | ok inputs =>
      dsimp only
      cases plan.executor.limit?.bind TimeLimit.sumFault? with
      | some fault => rfl
      | none =>
        unfold begin dispatch
        dsimp only
        rw [concludeIfIdle_unheard, dispatchUpTo_unheard]
        rfl

end Conduit.Run

import Conduit.Proofs.Run.Mirror

/-!
# What the state of a run shows

The state that an engine shows of a run is set by events and by the end of the run. It is terminal
exactly when the run is over, and from then on it stays, whatever still happens in a run that was
given up: what is in flight then comes to its end, and no step begins.

* `Run.Still` — nothing happens that the state shows;
* `Run.Marked` — the state shows whether the run is over;
* `Run.Goes` — what the moves of a run keep of that, with `Run.tick_goes` and `Run.abandon_goes`;
* `Run.Tended` — the invariant of runs of an engine, which they keep as they go on.
-/

namespace Conduit

namespace Run

/-! ## Moves in silence -/

/-- A step that is in flight has not begun. -/
def Unbegun (r : Run) : Prop := ∃ f ∈ r.flights, f.stage = .queued

/-- Nothing happens that the state shows, and no step is put in flight. -/
structure Still (r r' : Run) : Prop where
  plan : r'.plan = r.plan
  state : r'.state = r.state
  phase : r'.phase.bare = r.phase.bare
  begun : r'.Unbegun → r.Unbegun

theorem Still.refl (r : Run) : Still r r := ⟨rfl, rfl, rfl, id⟩

theorem Still.trans {r q s : Run} (h : Still r q) (h' : Still q s) : Still r s :=
  ⟨h'.plan.trans h.plan, h'.state.trans h.state, h'.phase.trans h.phase,
    fun hs => h.begun (h'.begun hs)⟩

theorem queue_still (r : Run) (t : Turn) : Still r (r.queue t) := by
  unfold queue
  split
  · exact .refl r
  · exact ⟨rfl, rfl, rfl, id⟩

theorem deliver_still (r : Run) (e : RunEvent) : Still r (r.deliver e) := by
  unfold deliver
  split
  · exact ⟨rfl, rfl, rfl, id⟩
  · next reader _ =>
    split
    · exact .refl r
    · have hread :
          Still r { r with reader := some { reader with unread := reader.unread ++ [e] } } :=
        ⟨rfl, rfl, rfl, id⟩
      dsimp only
      split
      · exact hread.trans (queue_still _ _)
      · exact hread

/-- Only the start of a step shows in the state. -/
theorem emit_still (r : Run) {e : RunEvent} (no_start : ∀ s, e ≠ .started s) :
    Still r (r.emit e) := by
  have htrack : Still r (({ r with events := r.events ++ [e] } : Run).track e) := by
    cases e with
    | started s => exact absurd rfl (no_start s)
    | completed s output micros => exact ⟨rfl, rfl, rfl, id⟩
    | stopped s status failure micros => exact ⟨rfl, rfl, rfl, id⟩
    | done result => exact ⟨rfl, rfl, rfl, id⟩
  exact htrack.trans (deliver_still _ e)

theorem setFlight_still (r : Run) {f : Flight} (begun : f.stage ≠ .queued) :
    Still r (r.setFlight f) := by
  refine ⟨rfl, rfl, rfl, ?_⟩
  rintro ⟨g, hg, hqueued⟩
  obtain ⟨h, hh, rfl⟩ := List.mem_map.1 hg
  split at hqueued
  · exact absurd hqueued begun
  · next hne =>
    rw [if_neg hne] at *
    exact ⟨h, hh, hqueued⟩

theorem enterStage_still (r : Run) (f : Flight) {stage : Stage} (begun : stage ≠ .queued)
    (wait : Wait) : Still r (r.enterStage f stage wait) := by
  cases wait with
  | none =>
    have hset : Still r (r.setFlight { f with stage := stage, due := none }) :=
      r.setFlight_still begun
    exact hset.trans ⟨rfl, rfl, rfl, id⟩
  | turn =>
    have hset : Still r (r.setFlight { f with stage := stage, due := none }) :=
      r.setFlight_still begun
    have hfree : Still r
        { r.setFlight { f with stage := stage, due := none } with held := false } :=
      hset.trans ⟨rfl, rfl, rfl, id⟩
    exact hfree.trans (queue_still _ _)
  | time micros =>
    have hset : Still r (r.setFlight { f with stage := stage, due := some (r.now + micros) }) :=
      r.setFlight_still begun
    exact hset.trans ⟨rfl, rfl, rfl, id⟩

theorem announceStage_still (r : Run) (f : Flight) {e : RunEvent} {stage : Bool → Stage}
    (no_start : ∀ s, e ≠ .started s) (begun : ∀ givenUp, stage givenUp ≠ .queued) :
    Still r (r.announceStage f e stage) :=
  (r.emit_still no_start).trans (enterStage_still _ f (begun _) _)

theorem stopFlight_still (r : Run) (f : Flight) (status : StepStatus) (failure : Failure) :
    Still r (r.stopFlight f status failure) :=
  announceStage_still r f (by simp) (by simp)

theorem cutFlight_still (r : Run) (f : Flight) : Still r (r.cutFlight f) :=
  r.stopFlight_still f _ _

theorem completeFlight_still (r : Run) (f : Flight) (output : Output) :
    Still r (r.completeFlight f output) := by
  unfold completeFlight
  dsimp only
  split
  · exact r.stopFlight_still f _ _
  · next outputs _ =>
    have hrecorded : Still r { r with outputs := outputs } := ⟨rfl, rfl, rfl, id⟩
    exact hrecorded.trans (announceStage_still _ f (by simp) (by simp))

theorem prepareFlight_still (r : Run) (f : Flight) : Still r (r.prepareFlight f) := by
  unfold prepareFlight
  split
  · exact r.stopFlight_still f _ _
  · split
    · exact r.stopFlight_still f _ _
    · split
      · exact r.enterStage_still f (by simp) _
      · split
        · exact r.stopFlight_still f _ _
        · exact r.enterStage_still f (by simp) _

theorem afterCall_still (r : Run) (environment : Environment) :
    Still r (r.afterCall environment) := ⟨rfl, rfl, rfl, id⟩

theorem beginCall_still (r : Run) (f : Flight) (input : Value) (connector : Connector) :
    Still r (r.beginCall f input connector) := by
  unfold beginCall
  dsimp only
  refine (r.afterCall_still (connector.call f.item.step input r.plan.context r.environment).1).trans
    ?_
  split
  · exact enterStage_still _ f (by simp) _
  · split
    · exact enterStage_still _ f (by simp) _
    · exact enterStage_still _ f (by simp) _

theorem callFlight_still (r : Run) (f : Flight) (input : Value) (connector : Connector) :
    Still r (r.callFlight f input connector) := by
  unfold callFlight
  split
  · exact r.beginCall_still f input connector
  · split
    · exact r.beginCall_still f input connector
    · exact r.stopFlight_still f _ _

theorem takeAnswer_still (r : Run) (f : Flight) (call : Call) : Still r (r.takeAnswer f call) := by
  unfold takeAnswer
  dsimp only
  refine (r.afterCall_still (call.finish r.environment).1).trans ?_
  split
  · exact cutFlight_still _ f
  · exact stopFlight_still _ f _ _
  · exact stopFlight_still _ f _ _
  · exact completeFlight_still _ f _

theorem answerFlight_still (r : Run) (f : Flight) (call : Call) (overdue : Bool) :
    Still r (r.answerFlight f call overdue) := by
  unfold answerFlight
  split
  · exact r.stopFlight_still f _ _
  · exact r.takeAnswer_still f call

theorem endFlight_still (r : Run) (f : Flight) (report : Option Report) :
    Still r (r.endFlight f report) := by
  have hset : Still r (r.setFlight { f with stage := .ended report, due := none }) :=
    r.setFlight_still (by simp)
  exact hset.trans ⟨rfl, rfl, rfl, id⟩

/-- When a step begins the run is shown to be running. -/
theorem openFlight_still (r : Run) (f : Flight) :
    Still { r with state := .running } (r.openFlight f) := by
  have htold : Still { r with state := .running } (r.emit (.started f.item)) := by
    refine Still.trans ?_ (deliver_still _ _)
    exact ⟨rfl, rfl, rfl, id⟩
  exact htold.trans (enterStage_still _ _ (by simp) _)

/-- A step in flight goes on in silence, or it begins. -/
theorem advance_still_or_opens (r : Run) (id : String) :
    Still r (r.advance id) ∨ r.Unbegun ∧ Still { r with state := .running } (r.advance id) := by
  unfold advance
  split
  · exact .inl (.refl r)
  · next f hf =>
    split
    · next hstage => exact .inr ⟨⟨f, flight?_mem hf, hstage⟩, r.openFlight_still f⟩
    · split
      · exact .inl (r.cutFlight_still f)
      · exact .inl (r.prepareFlight_still f)
    · exact .inl (r.callFlight_still f _ _)
    · exact .inl (r.answerFlight_still f _ _)
    · exact .inl (r.endFlight_still f _)
    · exact .inl (.refl r)

theorem interrupt_still (r : Run) (id : String) : Still r (r.interrupt id) := by
  unfold interrupt
  split
  · exact .refl r
  · next f _ =>
    have hdropped : Still r (r.dropTurn id) := ⟨rfl, rfl, rfl, fun h => h⟩
    refine hdropped.trans ?_
    dsimp only
    split
    · exact endFlight_still _ f _
    · exact endFlight_still _ f _
    · exact .refl _
    · exact cutFlight_still _ f

theorem interruptAll_still (ids : List String) (r : Run) : Still r (r.interruptAll ids) := by
  induction ids generalizing r with
  | nil => exact .refl r
  | cons id ids ih => exact (r.interrupt_still id).trans (ih (r.interrupt id))

theorem collect_still (r : Run) : Still r r.collect := by
  rw [collect_eq]
  refine ⟨rfl, rfl, rfl, ?_⟩
  rintro ⟨f, hf, hqueued⟩
  exact ⟨f, List.mem_of_mem_filter hf, hqueued⟩

theorem heed_still (r : Run) : Still r r.heed := by
  unfold heed
  split
  · have hheeded : Still r { r with heeded := true } := ⟨rfl, rfl, rfl, id⟩
    exact hheeded.trans (interruptAll_still _ _)
  · exact .refl r

theorem expire_still (r : Run) (limit : TimeLimit) : Still r (r.expire limit) := by
  have hstopped : Still r (r.stoppedBy limit) := ⟨rfl, rfl, rfl, id⟩
  exact hstopped.trans (interruptAll_still (r.flights.map Flight.id) (r.stoppedBy limit))

theorem read_still (r : Run) : Still r r.read := by
  obtain ⟨sightings, reader, cancelled, h, -⟩ :=
    readUpTo_eq ((r.reader.map fun reader => reader.unread.length).getD 0) r
  unfold read
  rw [h]
  exact ⟨rfl, rfl, rfl, id⟩

theorem wake_still (r : Run) : Still r r.wakeFlights.wakeEnd := by
  refine ⟨?_, ?_, (wake_stir r).phase, ?_⟩
  · exact (wake_stir r).plan
  · unfold wakeEnd
    split
    · split <;> rfl
    · rfl
  · rintro ⟨f', hf, hqueued⟩
    obtain ⟨f, hf, -, -, hstage⟩ := (wake_stir r).mem_flights hf
    exact ⟨f, hf, hstage.symm.trans hqueued⟩

theorem cancel_still (r : Run) : Still r r.cancel := by
  unfold cancel
  split
  · exact .refl r
  · exact ⟨rfl, rfl, rfl, id⟩

/-- Putting steps in flight does not show until they begin. -/
theorem dispatchUpTo_state (fuel : Nat) (r : Run) :
    (dispatchUpTo fuel r).state = r.state ∧ (dispatchUpTo fuel r).plan = r.plan := by
  induction fuel generalizing r with
  | zero => exact ⟨rfl, rfl⟩
  | succ fuel ih =>
    unfold dispatchUpTo
    split
    · split
      · exact ⟨rfl, rfl⟩
      · next s _ => exact ih (r.launch s)
    · exact ⟨rfl, rfl⟩

/-! ## The state of a run -/

/-- The state shows whether a run is over and how it ended, and only while it is running there are
steps in flight that have not begun. -/
structure Marked (r : Run) : Prop where
  state : r.state.isTerminal = r.isOver
  begun : r.Unbegun → r.phase = .running
  ending : ∀ result due, r.phase = .closing result due → result.state.isTerminal = true
  final : ∀ result time, r.phase = .over (.finished result) time → r.state = result.state

/-- A run over is not running. -/
theorem phase_ne_running {r : Run} (h : r.isOver = true) : r.phase ≠ .running := by
  intro hphase
  unfold isOver at h
  rw [hphase] at h
  cases h

theorem Still.marked {r r' : Run} (still : Still r r') (h : Marked r) : Marked r' := by
  have hphase := still.phase
  refine ⟨?_, ?_, ?_, ?_⟩
  · rw [still.state, isOver_bare hphase, h.state]
  · intro hunbegun
    rw [h.begun (still.begun hunbegun)] at hphase
    exact Phase.eq_running_of_bare hphase
  · intro result due hclosing
    rw [hclosing] at hphase
    cases hr : r.phase with
    | closing result' due' =>
      rw [hr] at hphase
      cases hphase
      exact h.ending _ _ hr
    | _ => rw [hr] at hphase; cases hphase
  · intro result time hover
    rw [hover] at hphase
    rw [still.state]
    exact h.final result time (Phase.eq_over_of_bare hphase.symm)

/-- A run goes on: its state still shows whether it is over, and if it was over nothing of that
changes. -/
structure Goes (r r' : Run) : Prop where
  plan : r'.plan = r.plan
  marked : Marked r → Marked r'
  lasts : Marked r → r.isOver = true → r'.phase = r.phase ∧ r'.state = r.state

theorem Goes.refl (r : Run) : Goes r r := ⟨rfl, id, fun _ _ => ⟨rfl, rfl⟩⟩

theorem Goes.trans {r q s : Run} (h : Goes r q) (h' : Goes q s) : Goes r s where
  plan := h'.plan.trans h.plan
  marked hr := h'.marked (h.marked hr)
  lasts := by
    intro hr hover
    obtain ⟨hphase, hstate⟩ := h.lasts hr hover
    have hover' : q.isOver = true := (isOver_congr hphase).trans hover
    obtain ⟨hphase', hstate'⟩ := h'.lasts (h.marked hr) hover'
    exact ⟨hphase'.trans hphase, hstate'.trans hstate⟩

theorem Still.goes {r r' : Run} (h : Still r r') : Goes r r' where
  plan := h.plan
  marked := h.marked
  lasts := by
    intro _ hover
    refine ⟨?_, h.state⟩
    have hphase := h.phase
    unfold isOver at hover
    split at hover
    · next ending time hr =>
      rw [hr] at hphase ⊢
      exact Phase.eq_over_of_bare hphase
    · cases hover

/-- While a run is running its state is not terminal, and it may do whatever leads to a run that is
marked. -/
theorem Goes.of_running {r r' : Run} (running : r.phase = .running) (plan : r'.plan = r.plan)
    (marked : Marked r → Marked r') : Goes r r' :=
  ⟨plan, marked, fun _ hover => absurd running (phase_ne_running hover)⟩

theorem Marked.pending {r : Run} (h : Marked r) (running : r.phase = .running) :
    r.state.isTerminal = false := by
  rw [h.state, isOver, running]

/-- A running run is marked if its state is not terminal. -/
theorem Marked.of_running {r : Run} (running : r.phase = .running)
    (pending : r.state.isTerminal = false) : Marked r where
  state := by rw [pending, isOver, running]
  begun _ := running
  ending := by simp [running]
  final := by simp [running]

/-- A run with nothing in flight that has not begun may be ended. -/
theorem Marked.close {r : Run} (begun : ¬r.Unbegun) (ending : Ending)
    (terminal : ∀ result, ending.result? = some result → result.state.isTerminal = true) :
    Marked (r.close ending) where
  state := by
    have hfailed : (if r.state.isTerminal then r.state else .failed).isTerminal = true := by
      split
      · assumption
      · rfl
    cases ending with
    | finished result => exact terminal result rfl
    | forsaken result => exact hfailed
    | raised trouble => exact hfailed
    | abandoned => exact hfailed
  begun := fun hunbegun => absurd hunbegun begun
  ending := by simp [Run.close]
  final := by
    rintro result time hover
    cases hover
    rfl

/-- Reporting the end of a run does not show but in its phase. -/
theorem announce_still (r : Run) (result : RunResult) :
    Still { r with phase := .closing result none } (r.announce result) := by
  have hemit : Still r (r.emit (.done result)) := r.emit_still (by simp)
  unfold announce
  dsimp only
  split
  · exact ⟨hemit.plan, hemit.state, rfl, hemit.begun⟩
  · refine Still.trans ?_ (queue_still _ _)
    exact ⟨hemit.plan, hemit.state, rfl, hemit.begun⟩
  · exact ⟨hemit.plan, hemit.state, rfl, hemit.begun⟩

/-- A run that announces a result is marked if nothing waits to begin. -/
theorem Marked.announce {r : Run} {result : RunResult} (begun : ¬r.Unbegun)
    (pending : r.state.isTerminal = false) (terminal : result.state.isTerminal = true) :
    Marked (r.announce result) := by
  refine (r.announce_still result).marked ⟨pending, fun hunbegun => absurd hunbegun begun, ?_, ?_⟩
  · rintro result' due ⟨⟩
    exact terminal
  · rintro result' time ⟨⟩

theorem not_unbegun_of_idle {r : Run} (idle : r.flights = []) : ¬r.Unbegun := by
  rintro ⟨f, hf, -⟩
  rw [idle] at hf
  cases hf

theorem Marked.conclude {r : Run} (idle : r.flights = []) (pending : r.state.isTerminal = false) :
    Marked r.conclude := by
  unfold Run.conclude
  split
  · next result hresult =>
    exact .announce (not_unbegun_of_idle idle) pending (isTerminal_of_result hresult)
  · exact .close (not_unbegun_of_idle idle) _ nofun

theorem concludeIfIdle_goes {r : Run} (running : r.phase = .running) :
    Goes r r.concludeIfIdle := by
  rw [concludeIfIdle_eq running]
  cases hidle : r.flights.isEmpty with
  | true =>
    exact .of_running running (conclude_alike r).plan fun h =>
      .conclude (List.isEmpty_iff.1 hidle) (h.pending running)
  | false => exact .refl r

/-! ## One reading of the clock -/

/-- A run that has announced its result may be ended. -/
theorem close_goes {r : Run} {result : RunResult} {due : Option Nat}
    (closing : r.phase = .closing result due) (ending : Ending)
    (same : ∀ other, ending.result? = some other → other = result) : Goes r (r.close ending) where
  plan := rfl
  marked h := by
    refine .close (fun hunbegun => ?_) ending fun other hother => ?_
    · have hrunning := h.begun hunbegun
      rw [closing] at hrunning
      cases hrunning
    · rw [same other hother]
      exact h.ending _ _ closing
  lasts _ hover := by
    rw [isOver, closing] at hover
    cases hover

theorem finishClosing_goes (r : Run) : Goes r r.finishClosing := by
  unfold finishClosing
  split
  · next result due hphase =>
    refine close_goes hphase _ fun other hother => ?_
    rw [Delivery.result?_endingOf] at hother
    exact (Option.some.inj hother).symm
  · exact .refl r

theorem take_goes (r : Run) (t : Turn) : Goes r (r.take t) := by
  cases t with
  | flight id =>
    rcases advance_still_or_opens r id with hstill | ⟨hunbegun, hopens⟩
    · exact hstill.goes
    · -- a step begins only while the run is running
      refine ⟨hopens.plan, fun h => ?_, fun h hover => ?_⟩
      · exact hopens.marked (.of_running (h.begun hunbegun) rfl)
      · exact absurd (h.begun hunbegun) (phase_ne_running hover)
  | reader => exact (read_still r).goes
  | finish => exact finishClosing_goes r

theorem drainUpTo_goes (fuel : Nat) (r : Run) : Goes r (drainUpTo fuel r) := by
  induction fuel generalizing r with
  | zero => exact .refl r
  | succ fuel ih =>
    unfold drainUpTo
    split
    · exact .refl r
    · next t rest _ =>
      have hpop : Still r { r with ready := rest } := ⟨rfl, rfl, rfl, id⟩
      exact hpop.goes.trans ((take_goes _ t).trans (ih _))

theorem drain_goes (r : Run) : Goes r r.drain := drainUpTo_goes _ r

theorem round_goes {r : Run} (running : r.phase = .running) : Goes r r.round := by
  unfold round
  split
  · refine r.collect_still.goes.trans (concludeIfIdle_goes ?_)
    exact (collect_keeps r).1.trans running
  · have hstill : Still r r.heed.collect := r.heed_still.trans (collect_still _)
    have hphase : r.heed.collect.phase = .running :=
      (collect_keeps r.heed).1.trans ((heed_keeps r).1.trans running)
    obtain ⟨hstate, hplan⟩ := dispatchUpTo_state r.heed.collect.waiting.length r.heed.collect
    have hdispatched : r.heed.collect.dispatch.phase = .running :=
      (dispatchUpTo_keeps _ r.heed.collect).1.trans hphase
    have hdispatch : Goes r.heed.collect r.heed.collect.dispatch := by
      refine .of_running hphase hplan fun h => .of_running hdispatched ?_
      exact (congrArg RunState.isTerminal hstate).trans (h.pending hphase)
    exact hstill.goes.trans (hdispatch.trans (concludeIfIdle_goes hdispatched))

theorem settleUpTo_goes (fuel : Nat) (r : Run) : Goes r (settleUpTo fuel r) := by
  induction fuel generalizing r with
  | zero => exact drain_goes r
  | succ fuel ih =>
    unfold settleUpTo
    dsimp only
    split
    · next hwants =>
      have hround := round_goes (running_of_wantsDispatcher hwants)
      exact r.drain_goes.trans (hround.trans (ih _))
    · exact drain_goes r

theorem settle_goes (r : Run) : Goes r r.settle := settleUpTo_goes _ r

theorem tick_goes (r : Run) (time : Nat) : Goes r (r.tick time) := by
  have hwoken : Still r (r.woken time) := by
    have hpass : Still r { r with now := max r.now time } := ⟨rfl, rfl, rfl, id⟩
    exact hpass.trans (wake_still _)
  rw [tick_eq]
  refine hwoken.goes.trans ((settle_goes _).trans ?_)
  unfold expireIfDue
  split
  · split
    · exact (expire_still _ _).goes.trans (settle_goes _)
    · exact .refl _
  · exact .refl _

/-! ## Beginning and giving up -/

/-- Interrupting a step leaves only other steps that have not begun. -/
theorem interrupt_unbegun {r : Run} (placed : Placed r) (id : String) :
    ∀ f ∈ (r.interrupt id).flights, f.stage = .queued → f ∈ r.flights ∧ f.id ≠ id := by
  intro f hf hqueued
  rcases interrupt_cases r id with ⟨hnone, hsame⟩ | ⟨g, hg, hcut⟩
  · rw [hsame] at hf
    refine ⟨hf, ?_⟩
    simpa using List.find?_eq_none.1 hnone f hf
  · have hid := flight?_id hg
    subst hid
    cases hcut with
    | past stage same =>
      rw [same] at hf
      refine ⟨hf, fun heq => ?_⟩
      -- the step of this id is over, and there is no other
      have hflies := placed.flight?_eq hf
      rw [heq, hg] at hflies
      cases hflies
      rw [hqueued] at stage
      cases stage
    | drops stage shift =>
      rcases shift.mem_flights hf with rfl | hother
      · cases hqueued
      · exact hother
    | loses report givenUp stage shift =>
      rcases shift.mem_flights hf with rfl | hother
      · cases hqueued
      · exact hother
    | stops due stage shift =>
      rcases shift.mem_flights hf with rfl | hother
      · cases hqueued
      · exact hother

theorem interruptAll_unbegun (ids : List String) {r : Run} (placed : Placed r) :
    Placed (r.interruptAll ids) ∧
      ∀ f ∈ (r.interruptAll ids).flights, f.stage = .queued → f ∈ r.flights ∧ f.id ∉ ids := by
  induction ids generalizing r with
  | nil => exact ⟨placed, fun f hf _ => ⟨hf, List.not_mem_nil⟩⟩
  | cons id ids ih =>
    obtain ⟨hplaced, hrest⟩ := ih (placed.interrupt id)
    refine ⟨hplaced, fun f hf hqueued => ?_⟩
    obtain ⟨hmem, hids⟩ := hrest f hf hqueued
    obtain ⟨hmem, hne⟩ := interrupt_unbegun placed id f hmem hqueued
    exact ⟨hmem, List.not_mem_cons_of_ne_of_not_mem hne hids⟩

/-- When all that is in flight is interrupted nothing is left that could begin. -/
theorem Marked.close_interrupted {r : Run} (placed : Placed r) :
    Marked ((r.interruptAll (r.flights.map Flight.id)).close .abandoned) := by
  refine .close ?_ _ nofun
  rintro ⟨f, hf, hqueued⟩
  obtain ⟨hmem, hnot⟩ := (interruptAll_unbegun _ placed).2 f hf hqueued
  exact hnot (List.mem_map_of_mem hmem)

/-- A run that is given up is over, and no step of it begins any more. -/
theorem abandon_goes {r : Run} (placed : Placed r) : Goes r r.abandon := by
  unfold abandon
  split
  · exact .refl r
  · next hphase =>
    refine Goes.trans (.of_running hphase ?_ fun _ => .close_interrupted placed) (drain_goes _)
    exact (interruptAll_still _ r).plan
  · next result due hphase => exact close_goes hphase _ nofun

/-- Whether the run was left as it was, by a caller who gave it up. -/
def isAbandoned (r : Run) : Bool :=
  match r.phase with
  | .over .abandoned _ => true
  | _ => false

/-- A run that was given up was so from then on. -/
theorem Goes.not_abandoned {r r' : Run} (h : Goes r r') (marked : Marked r)
    (kept : r'.isAbandoned = false) : r.isAbandoned = false := by
  cases hover : r.isOver with
  | true =>
    unfold isAbandoned at kept ⊢
    rwa [(h.lasts marked hover).1] at kept
  | false =>
    unfold isOver at hover
    unfold isAbandoned
    split at hover
    · cases hover
    · next hphase =>
      split
      · next time heq => exact absurd heq (hphase _ _)
      · rfl

/-- Only a run that is over already is not given up by who gives it up. -/
theorem abandon_eq_of_not_abandoned {r : Run} (placed : Placed r)
    (kept : r.abandon.isAbandoned = false) : r.abandon = r := by
  unfold abandon at kept ⊢
  split at kept
  · rfl
  · have hdrained := ((drain_goes _).lasts (.close_interrupted placed) rfl).1
    unfold isAbandoned at kept
    rw [hdrained] at kept
    cases kept
  · cases kept

/-- A run at its entry is about its plan, and its state shows whether it is over already. -/
theorem enter_marked (plan : Plan) (now : Nat) (environment : Environment)
    (reader : Option Reader) (cancelled : Bool) :
    Marked (enter plan now environment reader cancelled) ∧
      (enter plan now environment reader cancelled).plan = plan := by
  have hidle : ¬(prepare plan now environment reader cancelled).Unbegun :=
    not_unbegun_of_idle rfl
  unfold Run.enter
  dsimp only
  split
  · exact ⟨.close hidle _ nofun, rfl⟩
  · exact ⟨.announce hidle rfl rfl, (announce_still _ _).plan⟩
  · next inputs _ =>
    split
    · exact ⟨.close hidle _ nofun, rfl⟩
    · obtain ⟨hstate, hplan⟩ := dispatchUpTo_state plan.pipeline.steps.length
        (loaded plan now environment reader cancelled inputs)
      have hphase := (dispatchUpTo_keeps plan.pipeline.steps.length
        (loaded plan now environment reader cancelled inputs)).1
      have hgoes := concludeIfIdle_goes hphase
      refine ⟨hgoes.marked (.of_running hphase ?_), hgoes.plan.trans hplan⟩
      rw [hstate]
      rfl

/-- A run that is started is about its plan, and its state shows whether it is over already. -/
theorem start_marked (plan : Plan) (now : Nat) (environment : Environment)
    (reader : Option Reader) (cancelled : Bool) :
    Marked (start plan now environment reader cancelled) ∧
      (start plan now environment reader cancelled).plan = plan := by
  obtain ⟨hmarked, hplan⟩ := enter_marked plan now environment reader cancelled
  exact ⟨(settle_goes _).marked hmarked, (settle_goes _).plan.trans hplan⟩

/-! ## Runs of an engine -/

/-- A run as an engine keeps it. -/
structure Tended (r : Run) : Prop where
  placed : Placed r
  marked : Marked r
  tracked : r.isAbandoned = false → Tracked r

theorem Placed.settleUpTo (fuel : Nat) {r : Run} (h : Placed r) : Placed (settleUpTo fuel r) := by
  obtain ⟨_, hdrain⟩ := r.drain_changes
  obtain ⟨_, hchanges⟩ := h.settleUpTo_changes fuel
  exact (hdrain.trans hchanges).placed h

theorem Placed.tick {r : Run} (h : Placed r) (time : Nat) : Placed (r.tick time) := by
  have hsettled : Placed (r.woken time).settle :=
    .settleUpTo _ ((r.woken_changes time).placed h)
  rw [tick_eq]
  unfold expireIfDue
  split
  · next limit _ =>
    split
    · refine .settleUpTo _ (interruptAll_unbegun _ ?_).1
      exact { hsettled with }
    · exact hsettled
  · exact hsettled

theorem Placed.abandon {r : Run} (h : Placed r) : Placed r.abandon := by
  unfold Run.abandon
  split
  · exact h
  · obtain ⟨_, hdrain⟩ := drain_changes ((r.interruptAll (r.flights.map Flight.id)).close .abandoned)
    exact hdrain.placed ((close_alike _ _).placed (interruptAll_unbegun _ h).1)
  · exact (close_alike _ _).placed h

/-- A run that is tended is so when it has gone on. -/
theorem Tended.goes {r r' : Run} (h : Tended r) (goes : Goes r r') (placed : Placed r')
    (tracked : r'.isAbandoned = false → Tracked r → Tracked r') : Tended r' where
  placed := placed
  marked := goes.marked h.marked
  tracked kept := tracked kept (h.tracked (goes.not_abandoned h.marked kept))

theorem Tended.tick {r : Run} (h : Tended r) (time : Nat) : Tended (r.tick time) :=
  h.goes (tick_goes r time) (h.placed.tick time) fun _ htracked => htracked.tick time

theorem Tended.cancel {r : Run} (h : Tended r) : Tended r.cancel :=
  h.goes (cancel_still r).goes ((cancel_stir r).placed h.placed) fun _ htracked =>
    (cancel_stir r).changes.tracked htracked

theorem Tended.abandon {r : Run} (h : Tended r) : Tended r.abandon := by
  refine h.goes (abandon_goes h.placed) h.placed.abandon fun hkept htracked => ?_
  rwa [abandon_eq_of_not_abandoned h.placed hkept]

theorem Tended.start {plan : Plan} (formed : plan.pipeline.WellFormed) (now : Nat)
    (environment : Environment) (reader : Option Reader) (cancelled : Bool) :
    Tended (start plan now environment reader cancelled) :=
  ⟨.settleUpTo _ (Alive.enter formed now environment reader cancelled).placed,
    (start_marked plan now environment reader cancelled).1,
    fun _ => .start formed now environment reader cancelled⟩

end Run

end Conduit

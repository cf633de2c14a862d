import Conduit.Proofs.Run.FailFast
import Conduit.Proofs.Run.Outcome

/-!
# Cancelling a run

A request to cancel may come at any moment: before the run, between steps, from a step itself, or
while several steps are in flight. From then on no step is put in flight. Steps in flight are
interrupted if their connector lets itself be interrupted or there is none; the others go on, and
what they give or why they fail is what is reported of them. One error among the reports is enough
for the run to fail.

A step can also be given up, whether or not there is a request: by its connector, or by the
listener. It is reported as cancelled then, whatever its connector is.

* `Executor.Lasts`, `Executor.mayInterrupt_iff` — which steps are interrupted;
* `Run.Sound.halts` — no step is put in flight after a request to cancel;
* `Run.Sound.count_of_lasts` — the report of a step that is not interrupted is not lost;
* `Run.CancelsCleanly`, `Run.cancels_cleanly` — all of that, of every run and every request.
-/

namespace Conduit

/-- A step has a connector, and that does not let itself be interrupted. -/
def Executor.Lasts (e : Executor) (step : Step) : Prop :=
  ∃ connector, e.registry.connectorOf step = .ok connector ∧ connector.cancellable = false

theorem Executor.mayInterrupt_iff {e : Executor} {step : Step} :
    e.mayInterrupt step = true ↔
      ∀ connector, e.registry.connectorOf step = .ok connector → connector.cancellable = true := by
  unfold mayInterrupt
  cases e.registry.connectorOf step with
  | ok connector => simp
  | error failure => simp

theorem Executor.lasts_iff {e : Executor} {step : Step} :
    e.Lasts step ↔ ¬e.mayInterrupt step = true := by
  rw [mayInterrupt_iff]
  push Not
  simp only [Lasts, ne_eq, Bool.not_eq_true]

theorem Executor.Lasts.not_mayInterrupt {e : Executor} {step : Step} (h : e.Lasts step) :
    ¬e.mayInterrupt step = true :=
  lasts_iff.1 h

namespace Run

/-! ## Runs without a time limit -/

theorem enter_expired (plan : Plan) (now : Nat) (environment : Environment)
    (reader : Option Reader) (cancelled : Bool) :
    (enter plan now environment reader cancelled).expired = none := by
  unfold enter
  dsimp only
  cases plan.pipeline.effectiveInputs plan.context with
  | error fault => rfl
  | ok checked =>
    cases checked with
    | error failure =>
      obtain ⟨_, _, _, _, _, _, hannounce, -⟩ :=
        announce_eq (prepare plan now environment reader cancelled) (refusal failure)
      have hrefusal : (prepare plan now environment reader cancelled).unsuccessful .failed failure =
          refusal failure := rfl
      dsimp only
      rw [hrefusal, hannounce]
      rfl
    | ok inputs =>
      dsimp only
      cases plan.executor.limit?.bind TimeLimit.sumFault? with
      | some fault => rfl
      | none =>
        exact (begin_changes plan now environment reader cancelled inputs).induction
          (motive := fun q _ => q.expired = none) [] rfl
          fun _ _ _ _ hexpired change => change.keeps.2.2.trans hexpired

/-- A run without a time limit is not stopped by one. -/
theorem Begins.unstopped {plan : Plan} {r : Run} (begins : Begins plan r)
    (unlimited : plan.executor.limit? = none) (acts : List Act) :
    (r.performAll acts).expired = none := by
  obtain ⟨now, environment, reader, cancelled, hentered⟩ := begins.entered
  have hexpired : r.expired = none := by
    rw [hentered]
    exact enter_expired plan now environment reader cancelled
  have hall := performAll_induction
    (motive := fun q => Placed q ∧ q.plan = plan ∧ q.expired = none) acts
    ⟨begins.alive.placed, begins.plan_eq, hexpired⟩ ?_
  · exact hall.2.2
  · intro q a ⟨hplaced, hplan, hexpired⟩
    refine Run.perform_induction
      (motive := fun q _ => Placed q ∧ q.plan = plan ∧ q.expired = none) []
      a hplaced.flies_once ⟨hplaced, hplan, hexpired⟩ ?_ ?_
    · intro p p' _ _ ⟨hplaced, hplan, hexpired⟩ change
      obtain ⟨hplan', -, hexpired'⟩ := change.keeps
      exact ⟨hplaced.change change, hplan'.trans hplan, hexpired'.trans hexpired⟩
    · intro limit _ hreached
      have hlimit := (busy_of_limitReached? hreached).2.2.2.2
      rw [hplan, unlimited] at hlimit
      cases hlimit

/-! ## After a request to cancel -/

/-- A step that begins after a request to cancel was in flight when the request was made. Had it
waited, a round of the dispatcher would have put it in flight since, which no round does then. -/
theorem Sound.halts {r : Run} {lost : List String} (h : Sound r lost) {acts : List Act}
    {id : String} (asked : r.cancelled = true) (begun : (r.performAll acts).HasBegun id) :
    r.HasBegun id ∨ id ∈ r.flightIds := by
  rcases h.waits_of_hasBegun begun with hbefore | hwaits | hflies
  · exact .inl hbefore
  · obtain ⟨middle, rest, rfl, hlaunches⟩ :=
      exists_round_of_mem_launched (h.mem_launched hwaits begun)
    obtain ⟨-, hacts, -, hmay⟩ := may_of_mem_launches hlaunches
    have hmiddle := h.performAll middle
    obtain ⟨huncancelled, -⟩ := heed_eq_self hmiddle.placed (running_of_dispatcherActs hacts) hmay
    rw [(h.onward middle).cancelled asked] at huncancelled
    cases huncancelled
  · exact .inr hflies

/-! ## Steps that are not interrupted -/

/-- What is reported of a step that is not interrupted is its own, unless the step was given up. -/
theorem Outcome.own_of_lasts {r : Run} {x : Report} (outcome : r.Outcome x)
    (lasts : r.plan.executor.Lasts x.item.step) :
    r.Own x ∨ x.status = .cancelled ∧ r.Forgone x.item := by
  cases outcome with
  | own own => exact .inl own
  | interrupted status because allowed => exact absurd allowed lasts.not_mayInterrupt
  | givenUp status because why => exact .inr ⟨status, why⟩

theorem Own.not_cancelled {r : Run} {x : Report} (own : r.Own x) : x.status ≠ .cancelled := by
  cases own with
  | gave call after status called answer => simp [status]
  | failed failure status because why => simp [status]

/-- In a run that is over a step that began and is neither interrupted nor given up by the listener
has one result: its report is not lost. -/
theorem Sound.count_of_lasts {r : Run} {lost : List String} (h : Sound r lost)
    (ended : r.isOver = true) (losable : ∀ id ∈ lost, Losable r.plan id) {s : PipelineStep}
    (hs : s ∈ r.plan.pipeline.steps) (lasts : r.plan.executor.Lasts s.step)
    (kept : ¬r.plan.Forsakes s.step.id) (begun : r.HasBegun s.step.id) :
    (r.stepResults.map StepResult.step).count s.step.id = 1 := by
  have hkept : s.step.id ∉ lost := by
    intro hlost
    obtain ⟨t, ht, hid, hloses⟩ := losable _ hlost
    obtain rfl := h.formed.step_unique ht hs hid
    exact hloses.elim lasts.not_mayInterrupt kept
  have hreported : s.step.id ∈ r.reportIds := by
    by_contra hnot
    have hrecorded := h.booked.recorded_of_idle (h.standing.of_isOver ended).1 hnot hkept
    rw [hasBegun_iff, hrecorded.1] at begun
    cases begun
  rw [(stepResults_steps_perm r).count_eq]
  exact List.count_eq_one_of_mem h.placed.reported_once hreported

/-! ## Runs with an error -/

/-- A run that is over and has an error among its reports told a result that says that it failed,
and returned it unless its listener gave up over it. -/
theorem Sound.fails_of_error {r : Run} {lost : List String} (h : Sound r lost)
    (ended : r.isOver = true) {x : Report} (hx : x ∈ r.reports) (error : x.status = .error) :
    ∃ result, .done result ∈ r.events ∧ result.state = .failed ∧ result.steps = r.stepResults ∧
      (r.plan.delivery.givesUpEnd result = false → r.returned? = some result) := by
  have hfailed : r.failure ≠ none :=
    fun hfine => (h.judged.failure_eq_none_iff.1 hfine).2 x hx error
  obtain ⟨failure, hfailure⟩ := Option.ne_none_iff_exists'.1 hfailed
  have hresult : r.result = .ok (r.unsuccessful .failed failure) := by
    unfold Run.result
    rw [hfailure]
  refine ⟨_, ?_, rfl, rfl, fun hkept => ((h.standing.of_isOver ended).2.2 _).2 ⟨hresult, hkept⟩⟩
  exact h.standing.done_mem ended hresult

/-! ## Runs that are cancelled cleanly -/

/-- What a request to cancel does to a run, and what it leaves alone. -/
structure CancelsCleanly (plan : Plan) (r : Run) (acts : List Act) : Prop where
  /-- After a request to cancel no step begins that was not in flight then. -/
  halts : ∀ front back id, acts = front ++ back → (r.performAll front).cancelled = true →
    (r.performAll acts).HasBegun id →
      (r.performAll front).HasBegun id ∨ id ∈ (r.performAll front).flightIds
  /-- The result of a step that is not interrupted is its own success or error, and its output is on
  record if it succeeded; unless the step was given up before its end was told, which makes it
  cancelled. -/
  spares : ∀ s ∈ plan.pipeline.steps, plan.executor.Lasts s.step →
    ∀ result ∈ (r.performAll acts).stepResults, result.step = s.step.id →
      ∃ x ∈ (r.performAll acts).reports, x.item = s ∧
        x.result (r.performAll acts).plan.moment (r.performAll acts).environment = result ∧
        (r.performAll acts).outputs.get? s.step.id = x.given ∧
        (result.status ≠ .cancelled ∧ (r.performAll acts).Own x ∨
          result.status = .cancelled ∧ (r.performAll acts).Forgone s)
  /-- At the end of the run every such step that began has one result, unless the listener gives it
  up. -/
  keeps : (r.performAll acts).isOver = true → ∀ s ∈ plan.pipeline.steps,
    plan.executor.Lasts s.step → ¬plan.Forsakes s.step.id → (r.performAll acts).HasBegun s.step.id →
      ((r.performAll acts).stepResults.map StepResult.step).count s.step.id = 1
  /-- A result says that a step was cancelled only if its connector lets itself be interrupted, or
  there is none, or the step was given up. -/
  cancels : ∀ result ∈ (r.performAll acts).stepResults, result.status = .cancelled →
    ∃ s ∈ plan.pipeline.steps, s.step.id = result.step ∧
      ((∀ connector, plan.executor.registry.connectorOf s.step = .ok connector →
        connector.cancellable = true) ∨ (r.performAll acts).Forgone s)
  /-- The run comes to its end. -/
  ends : (∃ more, (r.performAll acts).finish = (r.performAll acts).performAll more) ∧
    (r.performAll acts).finish.isOver = true
  /-- If a result is an error, the run tells at its end that it failed, and returns that unless the
  listener gives up over it. -/
  fails : (∃ result ∈ (r.performAll acts).stepResults, result.status = .error) →
    ∀ more, ((r.performAll acts).performAll more).isOver = true →
      ∃ result, .done result ∈ ((r.performAll acts).performAll more).events ∧
        result.state = .failed ∧
        result.steps = ((r.performAll acts).performAll more).stepResults ∧
        (plan.delivery.givesUpEnd result = false →
          ((r.performAll acts).performAll more).returned? = some result)

/-- What a run that was begun reports of its steps, and how it ends. -/
theorem Sound.cancelsCleanly {plan : Plan} {r : Run} (h : Sound r []) (about : r.plan = plan)
    (alive : Alive r) {acts : List Act} (attested : Attested (r.performAll acts))
    (losable : ∀ id ∈ r.lost acts, Losable (r.performAll acts).plan id) :
    CancelsCleanly plan r acts := by
  have hend := h.performAll acts
  have hplan : (r.performAll acts).plan = plan := (h.about_performAll acts).1.trans about
  rw [← hplan]
  refine
    { halts := ?_, spares := ?_, keeps := ?_, cancels := ?_,
      ends := (alive.performAll acts).finish_ends, fails := ?_ }
  · rintro front back id rfl hasked hbegun
    rw [performAll_append] at hbegun
    exact (h.performAll front).halts hasked hbegun
  · intro s hs hlasts result hresult hid
    obtain ⟨x, hx, rfl⟩ := mem_stepResults.1 hresult
    have hitem : x.item = s := hend.formed.step_unique (hend.placed.reported x hx) hs hid
    refine ⟨x, hx, hitem, rfl, hid ▸ (hend.booked.reports x hx).2, ?_⟩
    rcases (attested.reports x hx).own_of_lasts (by rw [hitem]; exact hlasts) with
      hown | ⟨hcancelled, hforgone⟩
    · exact .inl ⟨hown.not_cancelled, hown⟩
    · exact .inr ⟨hcancelled, hitem ▸ hforgone⟩
  · exact fun ended s hs hlasts hkept => hend.count_of_lasts ended losable hs hlasts hkept
  · intro result hresult hcancelled
    obtain ⟨x, hx, rfl⟩ := mem_stepResults.1 hresult
    refine ⟨x.item, hend.placed.reported x hx, rfl, ?_⟩
    cases attested.reports x hx with
    | own own => exact absurd hcancelled own.not_cancelled
    | interrupted status because allowed => exact .inl (Executor.mayInterrupt_iff.1 allowed)
    | givenUp status because why => exact .inr why
  · rintro ⟨result, hresult, herror⟩ more hover
    obtain ⟨x, hx, rfl⟩ := mem_stepResults.1 hresult
    rw [← (hend.about_performAll more).1]
    -- reports are not taken back
    exact (hend.performAll more).fails_of_error hover ((hend.onward more).reports.subset hx) herror

/-- A run that ends before it is begun reports nothing. -/
theorem Rests.cancelsCleanly {plan : Plan} {r : Run} {told : List RunEvent}
    (h : Rests r plan told) (ends : ∀ e ∈ told, e.isDone = true) (alive : Alive r)
    (acts : List Act) : CancelsCleanly plan r acts := by
  have hnone : (r.performAll acts).stepResults = [] := by
    unfold stepResults
    rw [(h.performAll acts).1.reports]
    rfl
  have hquiet : ∀ id, ¬(r.performAll acts).HasBegun id := by
    rintro id ⟨s, hs, -⟩
    rw [(h.performAll acts).1.events] at hs
    cases ends _ hs
  refine
    { halts := fun _ _ id _ _ hbegun => absurd hbegun (hquiet id), spares := ?_,
      keeps := fun _ s _ _ _ hbegun => absurd hbegun (hquiet s.step.id), cancels := ?_,
      ends := (alive.performAll acts).finish_ends, fails := ?_ }
  · simp [hnone]
  · simp [hnone]
  · simp [hnone]

/-- Every run is cancelled cleanly, whenever a request to cancel is made, up to the moment at which
its time limit stops it. -/
theorem cancels_cleanly {plan : Plan} {r : Run} (begins : Begins plan r) (acts : List Act)
    (unstopped : (r.performAll acts).expired = none) : CancelsCleanly plan r acts := by
  obtain ⟨hattested, hlosable⟩ := begins.attested acts unstopped
  cases begins.entry with
  | begun inputs accepted timed sound about fresh =>
    exact sound.cancelsCleanly about.1 begins.alive hattested hlosable
  | refused failure rejected rests reported =>
    exact rests.cancelsCleanly (by simp [RunEvent.isDone]) begins.alive acts
  | raised fault faulty rests ended =>
    exact rests.cancelsCleanly (by simp) begins.alive acts

/-! ## A request while two steps are in flight -/

/-- A connector that gives back its input after 10 microseconds. -/
def slowConnector (kind : StepKind) (cancellable : Bool) : Connector where
  name := "slow"
  kind := kind
  cancellable := cancellable
  call := fun _ input _ environment =>
    (environment,
     { wait := .time 10, finish := fun environment => (environment, .ok (.value input)) })

/-- A workflow of a remote action and two steps of which one comes after the other. -/
def remoteAndTwo : Definition where
  id := "w"
  name := "W"
  steps :=
    [{ id := "a", kind := .remoteTool, toolkit := some "t", action := some "A" },
     { id := "b", kind := .controlFlow }, { id := "c", kind := .controlFlow }]
  mappings :=
    [{ source := .fixed, target := .step "b", targetPath := "x", value := .str "v" },
     { source := .step "b", sourcePath := "x", target := .step "c", targetPath := "x" }]

/-- The pipeline of that workflow, with two steps in flight at once; the remote action lets itself
be interrupted and the other steps do not. -/
def remoteAndTwoPlan : Plan where
  executor :=
    { registry := .ofConnectors {} [slowConnector .remoteTool true, slowConnector .controlFlow false]
      concurrency := 2, concurrency_pos := Nat.two_pos }
  pipeline := ((remoteAndTwo.compile none).toOption).getD default
  context := {}
  id := "r"
  origin := default

/-- The run at its entry. -/
def remoteAndTwoRun : Run := enter remoteAndTwoPlan 0 {} none false

theorem remoteAndTwoRun_begins : Begins remoteAndTwoPlan remoteAndTwoRun :=
  .of_isSome (by decide +kernel : (remoteAndTwo.compile none).toOption.isSome = true) rfl 0 {} none
    false

/-- The run is cancelled while the connectors of `a` and `b` are at work. -/
def midway : List Act :=
  [.turn, .turn, .turn, .turn, .turn, .turn, .cancel, .round, .turn, .round, .pass 10, .wake, .turn,
    .turn, .round, .turn]

/-- The step `a` is cancelled, `b` succeeds, and `c` never begins. -/
theorem cancels_cleanly_midway :
    (remoteAndTwoRun.performAll midway).expired = none ∧
      CancelsCleanly remoteAndTwoPlan remoteAndTwoRun midway ∧
      (remoteAndTwoRun.performAll (midway.take 7)).cancelled = true ∧
      (remoteAndTwoRun.performAll (midway.take 7)).flightIds = ["a", "b"] ∧
      (remoteAndTwoRun.performAll midway).stepResults.map (fun x => (x.step, x.status)) =
        [("a", .cancelled), ("b", .success)] ∧
      (remoteAndTwoRun.performAll midway).isOver = true := by
  have hunstopped : (remoteAndTwoRun.performAll midway).expired = none :=
    remoteAndTwoRun_begins.unstopped rfl midway
  refine ⟨hunstopped, cancels_cleanly remoteAndTwoRun_begins midway hunstopped, ?_, ?_, ?_, ?_⟩
  · decide +kernel
  · decide +kernel
  · decide +kernel
  · decide +kernel

/-! ## A step that gives itself up -/

/-- A workflow of one function of the caller. -/
def oneFunction : Definition where
  id := "w"
  name := "W"
  steps := [{ id := "a", kind := .customCode, action := some "f" }]

/-- The connector of functions, with a function that gives itself up. -/
def quittingConnector : Connector :=
  CustomCode.connector
    [("f", { wait := .none, apply := fun _ environment => (environment, .error .cancelled) })]
    fun _ _ => .nothing

/-- The pipeline of that workflow, with that function. -/
def oneFunctionPlan : Plan where
  executor :=
    { registry := .ofConnectors {} [quittingConnector], concurrency_pos := Nat.one_pos }
  pipeline := ((oneFunction.compile none).toOption).getD default
  context := {}
  id := "r"
  origin := default

/-- The run at its entry. -/
def oneFunctionRun : Run := enter oneFunctionPlan 0 {} none false

theorem oneFunctionRun_begins : Begins oneFunctionPlan oneFunctionRun :=
  .of_isSome (by decide +kernel : (oneFunction.compile none).toOption.isSome = true) rfl 0 {} none
    false

/-- The function gives itself up at once. -/
def quits : List Act := [.turn, .turn, .turn, .turn, .turn, .round, .turn]

/-- Nobody asks for the run to be cancelled, and the connector of the step does not let itself be
interrupted; still the result of the step says that it was cancelled. -/
theorem quits_not_spared :
    (oneFunctionRun.performAll quits).cancelled = false ∧
      (oneFunctionRun.performAll quits).expired = none ∧
      (oneFunctionRun.performAll quits).isOver = true ∧
      ¬∀ s ∈ oneFunctionPlan.pipeline.steps, oneFunctionPlan.executor.Lasts s.step →
        ∀ result ∈ (oneFunctionRun.performAll quits).stepResults, result.step = s.step.id →
          result.status ≠ .cancelled := by
  have hsteps : (oneFunctionPlan.pipeline.steps.map fun s =>
      (s.step.id, oneFunctionPlan.executor.mayInterrupt s.step)) = [("a", false)] := by
    decide +kernel
  have hresults : (oneFunctionRun.performAll quits).stepResults.map (fun x => (x.step, x.status)) =
      [("a", .cancelled)] := by
    decide +kernel
  refine ⟨by decide +kernel, oneFunctionRun_begins.unstopped rfl quits, by decide +kernel,
    fun spares => ?_⟩
  obtain ⟨s, hs, hstep⟩ := List.mem_map.1 (hsteps ▸ List.mem_cons_self)
  obtain ⟨result, hresult, hstatus⟩ := List.mem_map.1 (hresults ▸ List.mem_cons_self)
  rw [Prod.mk.injEq] at hstep hstatus
  have hlasts : oneFunctionPlan.executor.Lasts s.step := by
    rw [Executor.lasts_iff, hstep.2]
    exact Bool.false_ne_true
  exact spares s hs hlasts result hresult (hstatus.1.trans hstep.1.symm) hstatus.2

end Run

end Conduit

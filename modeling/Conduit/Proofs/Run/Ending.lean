import Conduit.Proofs.Run.Ledger
import Conduit.Proofs.Run.Verdict

/-!
# How runs end

A run that was begun is running, or nothing is in flight and it has ended with what its records make
its result. Its end is told once and last, unless it ended with trouble.

* `Run.Standing` — how a run stands, kept by every change (`Run.Standing.change`);
* `Run.Halted` — a run that its time limit stopped;
* `Run.Sound`, `Run.Sound.performAll` — everything that is kept in the history of a run;
* `Run.Rests` — a run that ended before it was begun;
* `Run.Begins`, `Run.Entry` — how runs begin.
-/

namespace Conduit

/-- Whether an event is the end of a run. -/
def RunEvent.isDone : RunEvent → Bool
  | done _ => true
  | _ => false

/-- The result that was told at the end of a run. -/
def Ending.result? : Ending → Option RunResult
  | finished result => some result
  | forsaken result => some result
  | _ => none

@[simp] theorem Delivery.result?_endingOf (d : Delivery) (result : RunResult) :
    (d.endingOf result).result? = some result := by
  unfold endingOf
  split <;> rfl

/-- The result that is told in a phase, or was. -/
def Phase.result? : Phase → Option RunResult
  | running => none
  | closing result _ => some result
  | .over ending _ => ending.result?

theorem Phase.result?_bare (p : Phase) : p.bare.result? = p.result? := by
  cases p <;> rfl

/-- A run that is over and told its result has ended as the listener took that. -/
def Phase.Accords (p : Phase) (d : Delivery) : Prop :=
  ∀ ending time result, p = .over ending time → ending.result? = some result →
    ending = d.endingOf result

theorem Phase.eq_running_of_bare {p : Phase} (h : p.bare = .running) : p = .running := by
  cases p with
  | running => rfl
  | closing result due => cases h
  | «over» ending time => cases h

theorem Phase.eq_over_of_bare {p : Phase} {ending : Ending} {time : Nat}
    (h : p.bare = .over ending time) : p = .over ending time := by
  cases p with
  | running => cases h
  | closing result due => cases h
  | «over» ending' time' => exact h

theorem Phase.Accords.of_bare {p q : Phase} {d : Delivery} (h : p.Accords d)
    (same : q.bare = p.bare) : q.Accords d := by
  intro ending time result hphase
  refine h ending time result (Phase.eq_over_of_bare ?_)
  rw [← same, hphase]
  rfl

theorem Phase.accords_closing (result : RunResult) (due : Option Nat) (d : Delivery) :
    (Phase.closing result due).Accords d := by
  intro ending time other hphase
  cases hphase

/-- A plan can be begun when its inputs are accepted and its time limit, if it has one, is one. -/
def Plan.CanBegin (plan : Plan) (inputs : Members) : Prop :=
  plan.pipeline.effectiveInputs plan.context = .ok (.ok inputs) ∧
    plan.executor.limit?.bind TimeLimit.sumFault? = none

namespace Run

theorem isOver_congr {r r' : Run} (h : r'.phase = r.phase) : r'.isOver = r.isOver := by
  unfold isOver
  rw [h]

theorem isOver_bare {r r' : Run} (h : r'.phase.bare = r.phase.bare) : r'.isOver = r.isOver := by
  unfold isOver
  cases hr : r.phase <;> cases hr' : r'.phase <;> rw [hr, hr'] at h <;> simp_all [Phase.bare]

/-- The state of a result is terminal. -/
theorem isTerminal_of_result {r : Run} {result : RunResult} (h : r.result = .ok result) :
    result.state.isTerminal = true := by
  unfold Run.result at h
  split at h
  · cases h
    rfl
  · split at h
    · cases h
      rfl
    · split at h
      · cases h
        rfl
      · cases h

/-! ## Standing -/

/-- How a run stands that was begun. -/
inductive Standing (r : Run) : Prop
  /-- It is running, and its end is not told. -/
  | runs (phase : r.phase = .running) (quiet : ∀ e ∈ r.events, e.isDone = false)
  /-- It has ended with its result. -/
  | ends (result : RunResult) (phase : r.phase.result? = some result) (rest : r.flights = [])
      (concluded : r.result = .ok result)
      (complete :
        Intact r → r.failure = none → r.cancelled = false → r.waiting = [])
      (told : ∃ es, r.events = es ++ [.done result] ∧ ∀ e ∈ es, e.isDone = false)
      (accords : r.phase.Accords r.plan.delivery)
  /-- It has ended with trouble. -/
  | raises (trouble : Trouble) (time : Nat) (phase : r.phase = .over (.raised trouble) time)
      (rest : r.flights = []) (concluded : r.result = .error trouble)
      (complete :
        Intact r → r.failure = none → r.cancelled = false → r.waiting = [])
      (quiet : ∀ e ∈ r.events, e.isDone = false)

/-- Nothing changes the result of a run that is not running. -/
theorem Stir.result_eq {r r' : Run} (h : Stir r r') (ended : r.phase ≠ .running) :
    r'.result = r.result := by
  have henvironment := h.environment.resolve_left ended
  unfold result unsuccessful successful stepResults failureMessage
  rw [h.failure, h.outputs, h.plan, henvironment, h.inputs, h.reports]

theorem Stir.standing {r r' : Run} (stir : Stir r r') (h : Standing r) : Standing r' := by
  cases h with
  | runs phase quiet =>
    refine .runs (Phase.eq_running_of_bare ?_) (by rw [stir.quiet]; exact quiet)
    rw [stir.phase, phase]
    rfl
  | ends result phase rest concluded complete told accords =>
    -- others change what a run reads only while it is running, so its result stays
    have hended : r.phase ≠ .running := fun hrunning => by rw [hrunning] at phase; cases phase
    refine .ends result ?_ (stir.flights_eq_nil rest) ((stir.result_eq hended).trans concluded) ?_
      (by rw [stir.quiet]; exact told) (by rw [stir.plan]; exact accords.of_bare stir.phase)
    · rw [← Phase.result?_bare, stir.phase, Phase.result?_bare]
      exact phase
    · intro hintact hfailure hcancelled
      rw [stir.waiting]
      refine complete (stir.toAlike.intact hintact) (stir.failure ▸ hfailure) ?_
      by_contra hasked
      rw [stir.cancelled (by simpa using hasked)] at hcancelled
      cases hcancelled
  | raises trouble time phase rest concluded complete quiet =>
    have hended : r.phase ≠ .running := fun hrunning => by rw [hrunning] at phase; cases phase
    refine .raises trouble time (Phase.eq_over_of_bare ?_) (stir.flights_eq_nil rest)
      ((stir.result_eq hended).trans concluded) ?_ (by rw [stir.quiet]; exact quiet)
    · rw [stir.phase, phase]
      rfl
    · intro hintact hfailure hcancelled
      rw [stir.waiting]
      refine complete (stir.toAlike.intact hintact) (stir.failure ▸ hfailure) ?_
      by_contra hasked
      rw [stir.cancelled (by simpa using hasked)] at hcancelled
      cases hcancelled

/-- A run with a step in flight is running. -/
theorem Standing.running {r : Run} (h : Standing r) {id : String} {f : Flight}
    (flies : r.flight? id = some f) :
    r.phase = .running ∧ ∀ e ∈ r.events, e.isDone = false := by
  have hbusy : r.flights ≠ [] := by
    intro hnil
    have hmem := flight?_mem flies
    rw [hnil] at hmem
    cases hmem
  cases h with
  | runs phase quiet => exact ⟨phase, quiet⟩
  | ends result phase rest concluded complete told accords => exact absurd rest hbusy
  | raises trouble time phase rest concluded complete quiet => exact absurd rest hbusy

theorem Shift.standing {r r' : Run} {g : Flight} {told : List RunEvent} {outputs : Outputs}
    {id : String} {f : Flight} (shift : Shift r r' g told outputs) (flies : r.flight? id = some f)
    (undone : ∀ e ∈ told, e.isDone = false) (h : Standing r) : Standing r' := by
  obtain ⟨hphase, hquiet⟩ := h.running flies
  refine .runs (shift.phase.trans hphase) ?_
  rw [shift.events]
  intro e he
  rcases List.mem_append.1 he with he | he
  · exact hquiet e he
  · exact undone e he

theorem Move.standing {r r' : Run} {f : Flight} (move : Move r r' f)
    (flies : r.flight? f.id = some f) (h : Standing r) : Standing r' := by
  cases move with
  | opens due stage shift => exact shift.standing flies (by simp [RunEvent.isDone]) h
  | prepares due input connector stage built found timed shift =>
    exact shift.standing flies (by simp) h
  | calls due input connector overdue stage shift => exact shift.standing flies (by simp) h
  | fails due failure why shift =>
    exact shift.standing flies (by simp [RunEvent.isDone]) h
  | succeeds due call overdue output seen outputs stage answer copyable recorded shift =>
    exact shift.standing flies (by simp [RunEvent.isDone]) h
  | ends report stage shift => exact shift.standing flies (by simp) h

theorem Cut.standing {r r' : Run} {f : Flight} (cut : Cut r r' f)
    (flies : r.flight? f.id = some f) (h : Standing r) : Standing r' := by
  cases cut with
  | past stage same =>
    rw [same]
    obtain ⟨hphase, hquiet⟩ := h.running flies
    exact .runs hphase hquiet
  | drops stage shift => exact shift.standing flies (by simp) h
  | loses report givenUp stage shift => exact shift.standing flies (by simp) h
  | stops due stage shift => exact shift.standing flies (by simp [RunEvent.isDone]) h

/-- A run that is running and ends has the result that its records make. -/
theorem Standing.conclude {r : Run} (placed : Placed r) (judged : Judged r)
    (formed : r.plan.pipeline.WellFormed) (running : r.phase = .running) (idle : r.flights = [])
    (stuck : r.expired.isSome = true ∨ (r.mayDispatch = true → r.waiting.find? r.isReady = none))
    (h : Standing r) : Standing r.conclude := by
  have hcomplete : Intact r → r.failure = none → r.cancelled = false → r.waiting = [] := by
    intro hintact hfine huncancelled
    -- a run that its time limit stopped has failed, so the dispatcher got stuck
    refine judged.waiting_eq_nil placed formed hintact hfine huncancelled idle ?_
    refine stuck.resolve_left fun hexpired => ?_
    rw [(judged.failure_eq_none_iff.1 hfine).1] at hexpired
    cases hexpired
  have hquiet : ∀ e ∈ r.events, e.isDone = false := by
    cases h with
    | runs phase quiet => exact quiet
    | ends result phase rest concluded complete told accords => rw [running] at phase; cases phase
    | raises trouble time phase rest concluded complete quiet => exact quiet
  unfold Run.conclude
  cases hresult : r.result with
  | error trouble =>
    exact .raises trouble r.now rfl idle hresult (fun intact => hcomplete { intact with }) hquiet
  | ok result =>
    obtain ⟨_, _, _, _, _, _, hannounce, -⟩ := announce_eq r result
    dsimp only
    rw [hannounce]
    exact .ends result rfl idle hresult (fun intact => hcomplete { intact with })
      ⟨r.events, rfl, hquiet⟩ (Phase.accords_closing _ _ _)

/-- A run that ends after its end was told ends as the listener took that. -/
theorem accords_close (r : Run) (result : RunResult) :
    (r.close (r.plan.delivery.endingOf result)).phase.Accords r.plan.delivery := by
  rintro _ _ other ⟨⟩ hother
  rw [Delivery.result?_endingOf] at hother
  cases hother
  rfl

theorem accords_raised (r : Run) (trouble : Trouble) (d : Delivery) :
    (r.close (.raised trouble)).phase.Accords d := by
  rintro _ _ _ ⟨⟩ hresult
  cases hresult

theorem Standing.close {r : Run} {result : RunResult} {due : Option Nat}
    (closing : r.phase = .closing result due) (h : Standing r) :
    Standing (r.close (r.plan.delivery.endingOf result)) := by
  cases h with
  | runs phase quiet => rw [closing] at phase; cases phase
  | ends result' phase rest concluded complete told accords =>
    rw [closing] at phase
    cases phase
    exact .ends result (Delivery.result?_endingOf _ _) rest concluded
      (fun intact => complete { intact with }) told (accords_close r result)
  | raises trouble time phase rest concluded complete quiet => rw [closing] at phase; cases phase

theorem Standing.change {r r' : Run} {lost : List String} (placed : Placed r) (judged : Judged r)
    (formed : r.plan.pipeline.WellFormed) (h : Standing r) (change : Change r r' lost) :
    Standing r' := by
  have hrunning : r.phase = .running → ∀ e ∈ r.events, e.isDone = false := by
    intro hphase
    cases h with
    | runs phase quiet => exact quiet
    | ends result phase rest concluded complete told accords => rw [hphase] at phase; cases phase
    | raises trouble time phase rest concluded complete quiet => exact quiet
  cases change with
  | stirs stir => exact stir.standing h
  | moves flies move => exact move.standing flies h
  | cuts called flies cut => exact cut.standing flies h
  | heeds running asked => exact .runs running (hrunning running)
  | collects running =>
    rw [collect_eq]
    exact .runs running (hrunning running)
  | launches running may first => exact .runs running (hrunning running)
  | concludes running idle stuck => exact h.conclude placed judged formed running idle stuck
  | closes phase => exact h.close phase

/-! ## Time limits -/

/-- A step in flight that will not succeed, because the time limit of the run interrupted it. -/
def Barren (limit : Failure) (f : Flight) : Prop :=
  f.stage = .ended none ∨
    ∃ x, f.stage.report? = some x ∧ x.status = .error ∧ x.failure = some limit

/-- A run that its time limit stopped: nothing in flight will succeed, and not all steps have. -/
structure Halted (r : Run) (limit : Failure) : Prop where
  expired : r.expired = some limit
  barren : ∀ f ∈ r.flights, Barren limit f
  unfinished : ∃ s ∈ r.plan.pipeline.steps, s.step.id ∉ r.succeeded

/-- A step that is over when the time limit stops the run was interrupted by it. -/
theorem Barren.of_stage {limit : Failure} {f g : Flight} (h : Barren limit f)
    (stage : g.stage = f.stage) : Barren limit g := by
  unfold Barren
  rw [stage]
  exact h

theorem Barren.of_closing {limit : Failure} {f g : Flight} {x : Report} {givenUp : Bool}
    (h : Barren limit f) (stage : f.stage = .closing x givenUp)
    (next : g.stage = .ended (some x)) : Barren limit g := by
  rcases h with h | ⟨y, hy, hrest⟩
  · rw [stage] at h
    cases h
  · rw [stage] at hy
    cases hy
    exact .inr ⟨x, by rw [next]; rfl, hrest⟩

theorem Barren.not_underway {limit : Failure} {f : Flight} (h : Barren limit f) :
    f.stage.isUnderway = false ∧ f.stage ≠ .queued := by
  rcases h with h | ⟨x, hx, -⟩
  · rw [h]
    exact ⟨rfl, by simp⟩
  · cases hstage : f.stage <;> rw [hstage] at hx <;> first | cases hx; done | exact ⟨rfl, by simp⟩

/-- Interrupting a step when the time limit stopped the run makes it barren, and so does giving it
up. -/
theorem Cut.barren {r r' : Run} {f : Flight} {limit : Failure} (cut : Cut r r' f)
    (expired : r.expired = some limit) (past : f.stage.isEnded = true → Barren limit f)
    (once : ∀ e ∈ r.flights, e.id = f.id → e = f) :
    ∀ e ∈ r'.flights, Barren limit e ∨ e ∈ r.flights ∧ e.id ≠ f.id := by
  intro e he
  cases cut with
  | past stage same =>
    rw [same] at he
    by_cases hid : e.id = f.id
    · rw [once e he hid]
      exact .inl (past stage)
    · exact .inr ⟨he, hid⟩
  | drops stage shift =>
    rcases shift.mem_flights he with rfl | hother
    · exact .inl (.inl rfl)
    · exact .inr hother
  | loses report givenUp stage shift =>
    rcases shift.mem_flights he with rfl | hother
    · exact .inl (.inl rfl)
    · exact .inr hother
  | stops due stage shift =>
    rcases shift.mem_flights he with rfl | hother
    · refine .inl (.inr ⟨_, rfl, ?_, ?_⟩)
      · unfold interruption
        rw [expired]
        rfl
      · unfold interruption
        rw [expired]
        rfl
    · exact .inr hother

/-- Interrupting all that is in flight when the time limit stopped the run leaves nothing that will
succeed. -/
theorem interruptAll_barren {limit : Failure} (ids : List String) :
    ∀ r : Run, Placed r → r.expired = some limit →
      (∀ f ∈ r.flights, f.id ∈ ids ∧ f.stage.isEnded = false ∨ Barren limit f) →
      ∀ f ∈ (r.interruptAll ids).flights, Barren limit f := by
  induction ids with
  | nil =>
    intro r _ _ h f hf
    exact (h f hf).resolve_left fun hin => List.not_mem_nil hin.1
  | cons id ids ih =>
    intro r placed expired h
    -- the step of this id is barren from now on; others are interrupted later or barren already
    rcases interrupt_cases r id with ⟨hnone, hsame⟩ | ⟨f, hf, hcut⟩
    · show ∀ f ∈ ((r.interrupt id).interruptAll ids).flights, _
      rw [hsame]
      refine ih r placed expired fun e he => ?_
      rcases h e he with ⟨hin, hopen⟩ | hbarren
      · refine .inl ⟨(List.mem_cons.1 hin).resolve_left fun heq => ?_, hopen⟩
        rw [← heq, placed.flight?_eq he] at hnone
        cases hnone
      · exact .inr hbarren
    · have hid := flight?_id hf
      subst hid
      refine ih _ (hcut.placed hf placed) (hcut.keeps.expired.trans expired) fun e he => ?_
      have hover : f.stage.isEnded = true → Barren limit f := fun hended =>
        (h f (flight?_mem hf)).resolve_left fun hin => by rw [hended] at hin; cases hin.2
      have honce : ∀ e ∈ r.flights, e.id = f.id → e = f := fun e he heq =>
        List.inj_on_of_nodup_map placed.flies_once he (flight?_mem hf) heq
      rcases hcut.barren expired hover honce e he with hbarren | ⟨he, hne⟩
      · exact .inr hbarren
      · rcases h e he with ⟨hin, hopen⟩ | hbarren
        · exact .inl ⟨(List.mem_cons.1 hin).resolve_left hne, hopen⟩
        · exact .inr hbarren

/-- A run whose time limit is reached is halted. -/
theorem Halted.of_expire {r : Run} {limit : TimeLimit} (placed : Placed r) (judged : Judged r)
    (reached : r.limitReached? = some limit) : Halted (r.expire limit) (timeoutFailure limit) := by
  obtain ⟨hbusy, hopen, -⟩ := busy_of_limitReached? reached
  have hkept : Keeps (r.stoppedBy limit) (r.expire limit) :=
    interruptAll_keeps (r.flights.map Flight.id) (r.stoppedBy limit)
  refine ⟨hkept.expired, ?_, ?_⟩
  · refine interruptAll_barren (r.flights.map Flight.id) (r.stoppedBy limit) { placed with } rfl ?_
    intro f hf
    exact .inl ⟨List.mem_map_of_mem hf, hopen f hf⟩
  · -- what was in flight when the limit was reached is not reported, so it has not succeeded
    obtain ⟨f, hf⟩ := List.exists_mem_of_ne_nil r.flights hbusy
    refine ⟨f.item, by rw [hkept.plan]; exact placed.flying f hf, ?_⟩
    rw [hkept.succeeded]
    show f.id ∉ r.succeeded
    intro hin
    rw [judged.succeeded] at hin
    obtain ⟨x, hx, hid⟩ := List.mem_map.1 hin
    exact placed.flies_only f.id (mem_flightIds hf)
      (List.mem_map.2 ⟨x, List.mem_of_mem_filter hx, hid⟩)

/-- A run that its time limit stopped goes on so: what is reported was interrupted by the limit. -/
structure HaltsOn (r r' : Run) (limit : Failure) : Prop where
  halted : Halted r' limit
  reports : ∃ more, r'.reports = r.reports ++ more ∧
    ∀ x ∈ more, x.status = .error ∧ x.failure = some limit

section

variable {r r' : Run} {limit : Failure} (h : Halted r limit)

include h

/-- A change that reports nothing leaves a halted run so if all in flight stays barren. -/
theorem Halted.haltsOn (plan : r'.plan = r.plan) (expired : r'.expired = r.expired)
    (succeeded : r'.succeeded = r.succeeded) (reports : r'.reports = r.reports)
    (barren : ∀ f ∈ r'.flights, Barren limit f) : HaltsOn r r' limit where
  halted :=
    { expired := expired.trans h.expired
      barren := barren
      unfinished := by rw [plan, succeeded]; exact h.unfinished }
  reports := ⟨[], by rw [reports, List.append_nil], by simp⟩

theorem Halted.alike (alike : Alike r r') : HaltsOn r r' limit := by
  refine h.haltsOn alike.plan alike.expired alike.succeeded alike.reports fun e he => ?_
  obtain ⟨f, hf, -, -, hstage⟩ := alike.mem_flights he
  exact (h.barren f hf).of_stage hstage

/-- Of the moves only the end of a report is left to a step in flight. -/
theorem Halted.move {f : Flight} (flies : r.flight? f.id = some f) (move : Move r r' f) :
    HaltsOn r r' limit := by
  have hbarren := h.barren f (flight?_mem flies)
  obtain ⟨hunderway, hqueued⟩ := hbarren.not_underway
  cases move with
  | opens due stage shift => exact absurd stage hqueued
  | prepares due input connector stage built found timed shift =>
    rw [stage] at hunderway
    cases hunderway
  | calls due input connector overdue stage shift =>
    rw [stage] at hunderway
    cases hunderway
  | fails due failure why shift => rw [why.isUnderway] at hunderway; cases hunderway
  | succeeds due call overdue output seen outputs stage answer copyable recorded shift =>
    rw [stage] at hunderway
    cases hunderway
  | ends report stage shift =>
    refine h.haltsOn shift.plan shift.expired shift.succeeded shift.reports fun e he => ?_
    rcases shift.mem_flights he with rfl | ⟨he, -⟩
    · exact hbarren.of_closing stage rfl
    · exact h.barren e he

theorem Halted.cut {f : Flight} (placed : Placed r) (flies : r.flight? f.id = some f)
    (cut : Cut r r' f) : HaltsOn r r' limit := by
  have honce : ∀ e ∈ r.flights, e.id = f.id → e = f := fun e he heq =>
    List.inj_on_of_nodup_map placed.flies_once he (flight?_mem flies) heq
  have hbarren := h.barren f (flight?_mem flies)
  have hkept := cut.keeps
  refine h.haltsOn hkept.plan hkept.expired hkept.succeeded hkept.reports fun e he => ?_
  rcases cut.barren h.expired (fun _ => hbarren) honce e he with hcut | ⟨he, -⟩
  · exact hcut
  · exact h.barren e he

/-- What is taken out of flight was interrupted by the time limit. -/
theorem Halted.overReports (placed : Placed r) :
    ∀ x ∈ r.overReports, x.status = .error ∧ x.failure = some limit := by
  intro x hx
  obtain ⟨f, hf, hstage, -⟩ := placed.mem_overReports hx
  rcases h.barren f hf with hnone | ⟨y, hy, hrest⟩
  · rw [hstage] at hnone
    cases hnone
  · rw [hstage] at hy
    cases hy
    exact hrest

theorem Halted.collect (placed : Placed r) : HaltsOn r r.collect limit := by
  have hover := h.overReports placed
  have hnone : (r.overReports.filter fun x => x.status == .success) = [] := by
    rw [List.filter_eq_nil_iff]
    intro x hx
    rw [(hover x hx).1]
    simp
  rw [collect_eq]
  refine ⟨⟨h.expired, fun f hf => h.barren f (List.mem_of_mem_filter hf), ?_⟩,
    r.overReports, rfl, hover⟩
  show ∃ s ∈ r.plan.pipeline.steps, s.step.id ∉ r.succeeded ++ _
  rw [hnone, List.map_nil, List.append_nil]
  exact h.unfinished

/-- A run that its time limit stopped stays so, and reports no step but those that the limit
interrupted. -/
theorem Halted.change {lost : List String} (placed : Placed r) (judged : Judged r)
    (change : Change r r' lost) : HaltsOn r r' limit := by
  cases change with
  | stirs stir => exact h.alike stir.toAlike
  | moves flies move => exact h.move flies move
  | cuts called flies cut => exact h.cut placed flies cut
  | heeds running asked => exact h.haltsOn rfl rfl rfl rfl h.barren
  | collects running => exact h.collect placed
  | launches running may first =>
    -- a run that failed puts nothing in flight
    rw [mayDispatch_iff, judged.failure_of_expired h.expired] at may
    cases may.1
  | concludes running idle stuck => exact h.alike (conclude_alike r)
  | closes phase => exact h.alike (close_alike r _)

end

/-! ## Histories of runs that were begun -/

/-- What every change keeps of a run that was begun; `lost` are the steps whose reports were
lost. -/
structure Sound (r : Run) (lost : List String) : Prop where
  formed : r.plan.pipeline.WellFormed
  placed : Placed r
  booked : Booked r lost
  judged : Judged r
  standing : Standing r

theorem Sound.change {r r' : Run} {lost more : List String} (h : Sound r lost)
    (change : Change r r' more) : Sound r' (lost ++ more) where
  formed := by rw [change.keeps.1]; exact h.formed
  placed := h.placed.change change
  booked := h.booked.change h.placed change
  judged := h.judged.change h.placed change
  standing := h.standing.change h.placed h.judged h.formed change

theorem Sound.stoppedBy {r : Run} {lost : List String} (h : Sound r lost) {limit : TimeLimit}
    (reached : r.limitReached? = some limit) : Sound (r.stoppedBy limit) lost where
  formed := h.formed
  placed := { h.placed with }
  booked := { h.booked with }
  judged := h.judged.stoppedBy limit
  standing := by
    -- a limit is reached only while something is in flight, so the run is running
    obtain ⟨f, hf⟩ := List.exists_mem_of_ne_nil r.flights (busy_of_limitReached? reached).1
    obtain ⟨hphase, hquiet⟩ := h.standing.running (h.placed.flight?_eq hf)
    exact .runs hphase hquiet

/-- Every act keeps a run sound. -/
theorem Sound.perform {r : Run} {lost : List String} (h : Sound r lost) (a : Act) :
    Sound (r.perform a) (lost ++ r.losses a) :=
  perform_induction lost a h.placed.flies_once h (fun _ _ _ _ hq change => hq.change change)
    fun _ _ reached => h.stoppedBy reached

/-- A run is sound in all of its history. -/
theorem Sound.performAll {r : Run} {lost : List String} (h : Sound r lost) (acts : List Act) :
    Sound (r.performAll acts) (lost ++ r.lost acts) :=
  lost_induction acts h fun _ _ a hq => hq.perform a

/-- An act in which the time limit does not stop a run keeps what all changes keep of it. -/
theorem Sound.perform_induction {motive : Run → Prop} {r : Run} {lost : List String} {a : Act}
    (h : Sound r lost) (unstopped : a = .expire → r.limitReached? = none) (start : motive r)
    (step : ∀ q q' gone more, Sound q gone → motive q → Change q q' more → motive q') :
    motive (r.perform a) := by
  have hboth : Sound (r.perform a) (lost ++ r.losses a) ∧ motive (r.perform a) := by
    refine Run.perform_induction (motive := fun q gone => Sound q gone ∧ motive q) lost a
      h.placed.flies_once ⟨h, start⟩ ?_ ?_
    · intro q q' gone more ⟨hsound, hmotive⟩ change
      exact ⟨hsound.change change, step q q' gone more hsound hmotive change⟩
    · intro limit hexpire hreached
      rw [unstopped hexpire] at hreached
      cases hreached
  exact hboth.2

/-- A run that its time limit stopped is halted after every act. -/
theorem Sound.halted_perform {r : Run} {lost : List String} (h : Sound r lost) (a : Act)
    (halted : ∀ limit, r.expired = some limit → Halted r limit) :
    ∀ limit, (r.perform a).expired = some limit → Halted (r.perform a) limit := by
  -- either the limit stops the run in this act, or nothing but changes happen in it
  by_cases hstops : a = .expire ∧ r.limitReached? ≠ none
  · obtain ⟨rfl, hreached⟩ := hstops
    obtain ⟨limit, hreached⟩ := Option.ne_none_iff_exists'.1 hreached
    rw [perform_expire hreached]
    have hhalted := Halted.of_expire h.placed h.judged hreached
    intro failure hfailure
    rw [hhalted.expired] at hfailure
    cases hfailure
    exact hhalted
  · refine h.perform_induction
      (motive := fun q => ∀ limit, q.expired = some limit → Halted q limit) (fun hexpire => ?_)
      halted ?_
    · exact by_contra fun hreached => hstops ⟨hexpire, hreached⟩
    · intro q q' gone more hsound hhalted change failure hfailure
      rw [change.keeps.2.2] at hfailure
      exact ((hhalted failure hfailure).change hsound.placed hsound.judged change).halted

/-- A run that its time limit stopped is halted in all of its history. -/
theorem Sound.halted_performAll {r : Run} {lost : List String} (h : Sound r lost)
    (halted : ∀ limit, r.expired = some limit → Halted r limit) (acts : List Act) :
    ∀ limit, (r.performAll acts).expired = some limit → Halted (r.performAll acts) limit := by
  induction acts generalizing r lost with
  | nil => exact halted
  | cons a acts ih => exact ih (h.perform a) (h.halted_perform a halted)

/-! ## Runs that end before they are begun -/

/-- A run that has ended with nothing on record but the events `told`. -/
structure Rests (r : Run) (plan : Plan) (told : List RunEvent) : Prop where
  plan : r.plan = plan
  phase : r.phase ≠ .running
  waiting : r.waiting = []
  flights : r.flights = []
  outputs : r.outputs = {}
  reports : r.reports = []
  failure : r.failure = none
  events : r.events = told
  accords : r.phase.Accords r.plan.delivery

/-- A run that has ended with nothing on record stays as it is, and so does how it ended. -/
theorem Rests.change {r r' : Run} {plan : Plan} {told : List RunEvent} {lost : List String}
    (h : Rests r plan told)
    (change : Change r r' lost) :
    Rests r' plan told ∧ lost = [] ∧ r'.phase.result? = r.phase.result? ∧
      (∀ ending time, r.phase = .over ending time → r'.phase = .over ending time) := by
  have hnone : ∀ id, r.flight? id = none := by
    intro id
    unfold flight?
    rw [h.flights]
    rfl
  cases change with
  | stirs stir =>
    have hresult : r'.phase.result? = r.phase.result? := by
      rw [← Phase.result?_bare, stir.phase, Phase.result?_bare]
    refine ⟨⟨?_, ?_, ?_, stir.flights_eq_nil h.flights, ?_, ?_, ?_, ?_,
      ?_⟩, rfl, hresult, ?_⟩
    · rw [stir.plan, h.plan]
    · intro hrunning
      have hbare := stir.phase
      rw [hrunning] at hbare
      exact h.phase (Phase.eq_running_of_bare hbare.symm)
    · rw [stir.waiting, h.waiting]
    · rw [stir.outputs, h.outputs]
    · rw [stir.reports, h.reports]
    · rw [stir.failure, h.failure]
    · rw [stir.quiet, h.events]
    · rw [stir.plan]
      exact h.accords.of_bare stir.phase
    · intro ending time hover
      refine Phase.eq_over_of_bare ?_
      rw [stir.phase, hover]
      rfl
  | moves flies move => rw [hnone] at flies; cases flies
  | cuts called flies cut => rw [hnone] at flies; cases flies
  | heeds running asked => exact absurd running h.phase
  | collects running => exact absurd running h.phase
  | launches running may first => exact absurd running h.phase
  | concludes running idle stuck => exact absurd running h.phase
  | closes phase =>
    refine ⟨{ h with phase := by simp [close], accords := accords_close r _ }, rfl, ?_, ?_⟩
    · rw [phase]
      exact Delivery.result?_endingOf _ _
    intro ending time hover
    rw [phase] at hover
    cases hover

/-- A run that has ended with nothing on record loses no report and ends as it did. -/
theorem Rests.performAll {r : Run} {plan : Plan} {told : List RunEvent} (h : Rests r plan told)
    (acts : List Act) :
    Rests (r.performAll acts) plan told ∧ r.lost acts = [] ∧
      (r.performAll acts).phase.result? = r.phase.result? ∧
      (∀ ending time, r.phase = .over ending time →
        (r.performAll acts).phase = .over ending time) := by
  have hids : r.flightIds.Nodup := by
    rw [flightIds_eq_nil h.flights]
    exact .nil
  induction acts generalizing r with
  | nil => exact ⟨h, rfl, rfl, fun _ _ hover => hover⟩
  | cons a acts ih =>
    obtain ⟨hrests, hlosses, hresult, hover⟩ :
        Rests (r.perform a) plan told ∧ [] ++ r.losses a = [] ∧
          (r.perform a).phase.result? = r.phase.result? ∧
          (∀ ending time, r.phase = .over ending time →
            (r.perform a).phase = .over ending time) := by
      refine Run.perform_induction
        (motive := fun q gone => Rests q plan told ∧ gone = [] ∧ q.phase.result? = r.phase.result? ∧
          (∀ ending time, r.phase = .over ending time → q.phase = .over ending time))
        [] a hids ⟨h, rfl, rfl, fun _ _ hover => hover⟩ ?_ ?_
      · intro q q' gone more ⟨hq, hgone, hresult, hover⟩ change
        obtain ⟨hq', hmore, hresult', hover'⟩ := hq.change change
        refine ⟨hq', by rw [hgone, hmore]; rfl, hresult'.trans hresult, ?_⟩
        exact fun ending time hphase => hover' ending time (hover ending time hphase)
      -- a limit is reached only while something is in flight
      · intro limit _ hreached
        exact absurd h.flights (busy_of_limitReached? hreached).1
    have hids' : (r.perform a).flightIds.Nodup := by
      rw [flightIds_eq_nil hrests.flights]
      exact .nil
    obtain ⟨hrests', hlost, hresult', hover'⟩ := ih hrests hids'
    refine ⟨hrests', ?_, hresult'.trans hresult, ?_⟩
    · rw [lost, hlost, show r.losses a = [] from hlosses]
      rfl
    · exact fun ending time hphase => hover' ending time (hover ending time hphase)

/-! ## Beginnings -/

/-- A run with its inputs, before anything is dispatched. -/
def loaded (plan : Plan) (now : Nat) (environment : Environment) (reader : Option Reader)
    (cancelled : Bool) (inputs : Members) : Run :=
  { prepare plan now environment reader cancelled with
    inputs := inputs
    waiting := plan.pipeline.steps
    deadline := plan.executor.limit?.map fun limit => now + limit.micros }

/-- The result of a run without its required inputs. -/
def refusal (failure : Failure) : RunResult where
  success := false
  state := .failed
  error := some failure.message
  errorCode := some failure.kind.code

theorem Sound.loaded {plan : Plan} (formed : plan.pipeline.WellFormed) (now : Nat)
    (environment : Environment) (reader : Option Reader) (cancelled : Bool) (inputs : Members) :
    Sound (loaded plan now environment reader cancelled inputs) [] where
  formed := formed
  placed :=
    { waiting := List.Sublist.refl _, flying := by simp [Run.loaded, prepare],
      reported := by simp [Run.loaded, prepare], own := by simp [Run.loaded, prepare],
      waits_once := formed.stepIds_nodup, flies_once := .nil, reported_once := .nil,
      waits_only := fun _ _ => ⟨List.not_mem_nil, List.not_mem_nil⟩,
      flies_only := fun _ _ => List.not_mem_nil }
  booked :=
    { outputs := .nil, waiting := fun _ _ => ⟨rfl, rfl⟩, flights := by simp [Run.loaded, prepare],
      reports := by simp [Run.loaded, prepare], begun := by simp, gone := by simp, cut := by simp,
      others := fun _ _ _ _ _ => ⟨rfl, rfl⟩ }
  judged :=
    { succeeded := rfl, failure := rfl, reports := by simp [Run.loaded, prepare],
      flights := by simp [Run.loaded, prepare], grounds := by simp [Run.loaded, prepare],
      dropped := by simp [Run.loaded, prepare],
      heeded := by simp [Run.loaded, prepare],
      everyone := fun _ hs => .inl (List.mem_map_of_mem hs),
      released := by simp [Run.loaded, prepare] }
  standing := .runs rfl (by simp [Run.loaded, prepare])

/-- How a run comes from its entry. -/
inductive Entry (plan : Plan) (r : Run) : Prop
  /-- It is begun. -/
  | begun (inputs : Members)
      (accepted : plan.pipeline.effectiveInputs plan.context = .ok (.ok inputs))
      (timed : plan.executor.limit?.bind TimeLimit.sumFault? = none) (sound : Sound r [])
      (about : r.plan = plan ∧ r.inputs = inputs) (fresh : r.expired = none)
  /-- It lacks required inputs. -/
  | refused (failure : Failure)
      (rejected : plan.pipeline.effectiveInputs plan.context = .ok (.error failure))
      (rests : Rests r plan [.done (refusal failure)])
      (reported : r.phase.result? = some (refusal failure))
  /-- Its inputs cannot be checked, or its time limit is none. -/
  | raised (fault : Fault)
      (faulty : plan.pipeline.effectiveInputs plan.context = .error fault ∨
        (∃ inputs, plan.pipeline.effectiveInputs plan.context = .ok (.ok inputs)) ∧
          plan.executor.limit?.bind TimeLimit.sumFault? = some fault)
      (rests : Rests r plan []) (ended : ∃ time, r.phase = .over (.raised (.fault fault)) time)

/-- The dispatcher begins a run. -/
theorem begin_changes (plan : Plan) (now : Nat) (environment : Environment)
    (reader : Option Reader) (cancelled : Bool) (inputs : Members) :
    Changes (loaded plan now environment reader cancelled inputs)
      ((prepare plan now environment reader cancelled).begin inputs) [] := by
  have hdispatch := dispatchUpTo_changes plan.pipeline.steps.length
    (loaded plan now environment reader cancelled inputs) rfl
  have hkept := dispatchUpTo_keeps plan.pipeline.steps.length
    (loaded plan now environment reader cancelled inputs)
  refine hdispatch.trans (concludeIfIdle_changes _ hkept.1 (.inr ?_))
  exact dispatchUpTo_stuck _ _ (Nat.le_refl _)

theorem enter_cases {plan : Plan} (formed : plan.pipeline.WellFormed) (now : Nat)
    (environment : Environment) (reader : Option Reader) (cancelled : Bool) :
    Entry plan (enter plan now environment reader cancelled) := by
  unfold enter
  dsimp only
  cases hinputs : plan.pipeline.effectiveInputs plan.context with
  | error fault =>
    refine .raised fault (.inl hinputs) ?_ ⟨now, rfl⟩
    exact ⟨rfl, by simp [close], rfl, rfl, rfl, rfl, rfl, rfl, accords_raised _ _ _⟩
  | ok checked =>
    cases checked with
    | error failure =>
      obtain ⟨_, _, _, _, _, due, hannounce, -⟩ :=
        announce_eq (prepare plan now environment reader cancelled) (refusal failure)
      have hrefusal : (prepare plan now environment reader cancelled).unsuccessful .failed failure =
          refusal failure := rfl
      dsimp only
      rw [hrefusal, hannounce]
      refine .refused failure hinputs ?_ rfl
      exact ⟨rfl, by simp, rfl, rfl, rfl, rfl, rfl, rfl, Phase.accords_closing _ _ _⟩
    | ok inputs =>
      dsimp only
      cases hlimit : plan.executor.limit?.bind TimeLimit.sumFault? with
      | some fault =>
        refine .raised fault (.inr ⟨⟨inputs, hinputs⟩, hlimit⟩) ?_ ⟨now, rfl⟩
        exact ⟨rfl, by simp [close], rfl, rfl, rfl, rfl, rfl, rfl, accords_raised _ _ _⟩
      | none =>
        have hchanges := begin_changes plan now environment reader cancelled inputs
        have hsound : Sound (loaded plan now environment reader cancelled inputs) [] :=
          .loaded formed now environment reader cancelled inputs
        have hall := hchanges.induction
          (motive := fun q gone => Sound q gone ∧ q.plan = plan ∧ q.inputs = inputs ∧
            q.expired = none)
          [] ⟨hsound, rfl, rfl, rfl⟩ ?_
        · obtain ⟨hsound, hplan, hgiven, hfresh⟩ := hall
          exact .begun inputs hinputs hlimit hsound ⟨hplan, hgiven⟩ hfresh
        · intro q q' gone more ⟨hsound, hplan, hgiven, hfresh⟩ change
          obtain ⟨hplan', hgiven', hfresh'⟩ := change.keeps
          exact ⟨hsound.change change, hplan'.trans hplan, hgiven'.trans hgiven,
            hfresh'.trans hfresh⟩

/-- `r` is a run of a plan whose pipeline was compiled, at its entry. -/
structure Begins (plan : Plan) (r : Run) : Prop where
  compiled : ∃ (d : Definition) (schema : Option Members), d.compile schema = .ok plan.pipeline
  entered : ∃ now environment reader cancelled, r = enter plan now environment reader cancelled

/-- A run of what a workflow compiles to, at its entry. -/
theorem Begins.of_isSome {d : Definition} {plan : Plan}
    (compiles : (d.compile none).toOption.isSome = true)
    (pipeline : plan.pipeline = (d.compile none).toOption.getD default) (now : Nat)
    (environment : Environment) (reader : Option Reader) (cancelled : Bool) :
    Begins plan (enter plan now environment reader cancelled) := by
  refine ⟨⟨d, none, ?_⟩, now, environment, reader, cancelled, rfl⟩
  rw [pipeline]
  exact Definition.compile_of_isSome compiles

theorem Begins.entry {plan : Plan} {r : Run} (h : Begins plan r) : Entry plan r := by
  obtain ⟨d, schema, hcompiled⟩ := h.compiled
  obtain ⟨now, environment, reader, cancelled, rfl⟩ := h.entered
  exact enter_cases (.of_compile hcompiled) now environment reader cancelled

theorem Begins.plan_eq {plan : Plan} {r : Run} (begins : Begins plan r) : r.plan = plan := by
  cases begins.entry with
  | begun inputs accepted timed sound about fresh => exact about.1
  | refused failure rejected rests reported => exact rests.plan
  | raised fault faulty rests ended => exact rests.plan

/-- What a run is about does not change. -/
theorem Sound.about_performAll {r : Run} {lost : List String} (h : Sound r lost)
    (acts : List Act) :
    (r.performAll acts).plan = r.plan ∧ (r.performAll acts).inputs = r.inputs := by
  induction acts generalizing r lost with
  | nil => exact ⟨rfl, rfl⟩
  | cons a acts ih =>
    obtain ⟨hplan, hinputs⟩ := ih (h.perform a)
    have hact : (r.perform a).plan = r.plan ∧ (r.perform a).inputs = r.inputs := by
      refine Run.perform_induction (motive := fun q _ => q.plan = r.plan ∧ q.inputs = r.inputs) []
        a h.placed.flies_once ⟨rfl, rfl⟩ ?_ (fun _ _ _ => ⟨rfl, rfl⟩)
      intro q q' gone more ⟨hplan, hinputs⟩ change
      obtain ⟨hplan', hinputs', -⟩ := change.keeps
      exact ⟨hplan'.trans hplan, hinputs'.trans hinputs⟩
    exact ⟨hplan.trans hact.1, hinputs.trans hact.2⟩

end Run

end Conduit

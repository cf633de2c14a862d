import Conduit.Proofs.Run.Held
import Conduit.Proofs.Run.Results

/-!
# Failing fast

A failure stops the dispatcher when the step that failed is taken out of flight. The listener may
take its time over the error of the step, and the step is in flight until then. A step that can go
in the meantime is put in flight and begins after the error of the other was told. So does one that
can go when the listener has given the step up over its error: its report is lost then. Other than
in these ways no step begins after an error that was not in flight already.

* `Run.HasBegun`, `Run.HasFailed` — what was told of a step;
* `Run.Sound.waits_of_hasBegun` — a step that begins later was in flight or waited;
* `Run.Sound.tells_or_loses` — steps are put in flight after an error only while the listener takes
  its time over one or when it has given one up;
* `Run.FailsFast`, `Run.Hasty`, `Run.fails_fast_iff` — when a run fails fast.
-/

namespace Conduit.Run

/-! ## What was told of steps -/

/-- The start of a step was told. -/
def HasBegun (r : Run) (id : String) : Prop := ∃ s, .started s ∈ r.events ∧ s.step.id = id

/-- The error of a step was told. -/
def HasFailed (r : Run) (id : String) : Prop :=
  ∃ s failure micros, .stopped s .error failure micros ∈ r.events ∧ s.step.id = id

theorem hasBegun_iff {r : Run} {id : String} : r.HasBegun id ↔ .start ∈ r.told id :=
  exists_started_iff

theorem hasFailed_iff {r : Run} {id : String} : r.HasFailed id ↔ .stop .error ∈ r.told id := by
  unfold told HasFailed
  rw [List.mem_filterMap]
  constructor
  · rintro ⟨s, failure, micros, hs, rfl⟩
    exact ⟨_, hs, if_pos rfl⟩
  · rintro ⟨e, he, hnotice⟩
    cases e with
    | started s => simp [RunEvent.noticeOf] at hnotice
    | completed s output micros => simp [RunEvent.noticeOf] at hnotice
    | stopped s status failure micros =>
      have hboth : s.step.id = id ∧ status = .error := by simpa [RunEvent.noticeOf] using hnotice
      obtain ⟨hid, rfl⟩ := hboth
      exact ⟨s, failure, micros, he, hid⟩
    | done result => cases hnotice

theorem HasFailed.onward {r r' : Run} {id : String} (h : r.HasFailed id) (later : Onward r r') :
    r'.HasFailed id := by
  obtain ⟨s, failure, micros, hs, hid⟩ := h
  exact ⟨s, failure, micros, later.events.subset hs, hid⟩

/-! ## Steps that begin later -/

/-- Reports are lost only after a request to cancel was heeded or a time limit stopped the run, or
to a listener who gives up the step. -/
def Excused (r : Run) (lost : List String) : Prop :=
  ∀ id ∈ lost, r.heeded = true ∨ r.expired.isSome = true ∨ r.plan.Forsakes id

theorem Excused.nil {r : Run} : Excused r [] := fun _ hnone => absurd hnone List.not_mem_nil

/-- Only a step that is interrupted or given up loses its report. -/
theorem Excused.change {r r' : Run} {gone lost : List String} (h : Excused r gone)
    (sound : Sound r gone) (change : Change r r' lost) : Excused r' (gone ++ lost) := by
  intro id hid
  rw [change.keeps.1, change.keeps.2.2]
  refine Or.imp_left change.onward.heeded ?_
  rcases List.mem_append.1 hid with hid | hid
  · exact h id hid
  · cases change with
    | @cuts _ f called flies cut allowed =>
      split at hid
      · next hclosing =>
        obtain rfl := List.mem_singleton.1 hid
        refine called.imp_right (Or.imp_right fun gives => ?_)
        exact gives.forsakes hclosing (sound.judged.grounds f (flight?_mem flies))
      · cases hid
    | _ => cases hid

theorem Sound.excused {r : Run} {lost : List String} (h : Sound r lost) (excused : Excused r lost)
    (acts : List Act) : Excused (r.performAll acts) (lost ++ r.lost acts) :=
  h.invariant (motive := Excused) excused
    (fun _ _ _ _ sound excused change => excused.change sound change)
    (fun _ _ _ _ _ _ _ _ => .inr (.inl rfl)) acts

/-- Every step that begins in a change was in flight. -/
theorem Change.hasBegun {r r' : Run} {lost : List String} (h : Change r r' lost) {id : String}
    (begun : r'.HasBegun id) : r.HasBegun id ∨ id ∈ r.flightIds := by
  rw [hasBegun_iff] at begun ⊢
  have hquiet : r'.told id = r.told id → .start ∈ r.told id ∨ id ∈ r.flightIds :=
    fun hsame => .inl (hsame ▸ begun)
  have hshift : ∀ g told outputs, Shift r r' g told outputs →
      (∀ e ∈ told, e.noticeOf id = some .start → id ∈ r.flightIds) →
      .start ∈ r.told id ∨ id ∈ r.flightIds := by
    intro g told outputs shift hstarts
    rw [shift.told, List.mem_append] at begun
    rcases begun with hold | hnew
    · exact .inl hold
    · obtain ⟨e, he, hnotice⟩ := List.mem_filterMap.1 hnew
      exact .inr (hstarts e he hnotice)
  cases h with
  | stirs stir => exact hquiet (stir.toAlike.told id)
  | @moves _ f flies move =>
    cases move with
    | opens due stage shift =>
      refine hshift _ _ _ shift fun e he hnotice => ?_
      rw [List.mem_singleton.1 he] at hnotice
      obtain rfl : f.item.step.id = id := by simpa [RunEvent.noticeOf] using hnotice
      exact mem_flightIds (flight?_mem flies)
    | prepares due input connector stage built found timed shift =>
      exact hshift _ _ _ shift (by simp)
    | calls due input connector overdue stage shift => exact hshift _ _ _ shift (by simp)
    | fails due failure why shift =>
      exact hshift _ _ _ shift (by simp [RunEvent.noticeOf])
    | succeeds due call overdue output seen outputs stage answer copyable recorded shift =>
      exact hshift _ _ _ shift (by simp [RunEvent.noticeOf])
    | ends report stage shift => exact hshift _ _ _ shift (by simp)
  | cuts called flies cut =>
    cases cut with
    | past stage same => exact hquiet (by rw [same]; rfl)
    | drops stage shift => exact hshift _ _ _ shift (by simp)
    | loses report givenUp stage shift => exact hshift _ _ _ shift (by simp)
    | stops due stage shift =>
      exact hshift _ _ _ shift (by simp [RunEvent.noticeOf])
  | heeds running asked => exact hquiet rfl
  | collects running => exact hquiet (by rw [collect_eq]; rfl)
  | launches running may first => exact hquiet rfl
  | concludes running idle stuck => exact hquiet ((conclude_alike r).told id)
  | closes phase => exact hquiet rfl

/-- A step that begins in a history was begun before it, was in flight or waited. -/
theorem Sound.waits_of_hasBegun {r : Run} {lost : List String} (h : Sound r lost)
    {acts : List Act} {id : String} (begun : (r.performAll acts).HasBegun id) :
    r.HasBegun id ∨ id ∈ r.waitingIds ∨ id ∈ r.flightIds := by
  have hall := h.invariant
    (motive := fun q _ => Onward r q ∧
      (q.HasBegun id → r.HasBegun id ∨ id ∈ r.waitingIds ∨ id ∈ r.flightIds))
    ⟨.refl r, .inl⟩ ?_ ?_ acts
  · exact hall.2 begun
  · intro q q' gone more _ ⟨honward, hbegun⟩ change
    refine ⟨honward.trans change.onward, fun hlater => ?_⟩
    rcases change.hasBegun hlater with hbefore | hflies
    · exact hbegun hbefore
    · exact .inr (honward.places id (.inr hflies))
  · exact fun q gone limit _ _ ⟨honward, hbegun⟩ => ⟨{ honward with }, hbegun⟩

/-- A step that waits and begins later is put in flight in between. -/
theorem Sound.mem_launched {r : Run} {lost : List String} (h : Sound r lost) {acts : List Act}
    {id : String} (waits : id ∈ r.waitingIds) (begun : (r.performAll acts).HasBegun id) :
    id ∈ r.launched acts := by
  have hperm := h.placed.waitingIds_perm_performAll acts
  refine (List.mem_append.1 (hperm.subset waits)).resolve_right fun hstill => ?_
  rw [hasBegun_iff, ((h.performAll acts).booked.waiting id hstill).1] at begun
  cases begun

/-! ## Rounds after an error -/

/-- The error of a step is being told. -/
def TellsError (r : Run) : Prop :=
  ∃ f ∈ r.flights, ∃ x givenUp, f.stage = .closing x givenUp ∧ x.status = .error

/-- The dispatcher may put steps in flight only when there is no request to cancel to heed. -/
theorem heed_eq_self {r : Run} (placed : Placed r) (running : r.phase = .running)
    (may : r.heed.collect.mayDispatch = true) : r.cancelled = false ∧ r.heed = r := by
  have huncancelled : r.cancelled = false := by
    by_contra hasked
    have hheed := (heed_changes r running placed.flies_once).onward.cancelled (by simpa using hasked)
    rw [mayDispatch_iff, collect_eq] at may
    cases hheed.symm.trans may.2.1
  refine ⟨huncancelled, ?_⟩
  unfold heed
  rw [huncancelled]
  rfl

/-- When the dispatcher may put steps in flight no report was lost but to a listener who gives up
the step. -/
theorem Sound.forsakes_of_lost {r : Run} {lost : List String} (h : Sound r lost)
    (excused : Excused r lost) (unstopped : r.expired = none) (uncancelled : r.cancelled = false)
    {id : String} (hid : id ∈ lost) : r.plan.Forsakes id := by
  rcases excused id hid with hheeded | hexpired | hforsakes
  · rw [h.judged.heeded hheeded] at uncancelled
    cases uncancelled
  · rw [unstopped] at hexpired
    cases hexpired
  · exact hforsakes

/-- The end of a step that was told is in a report, of a step in flight or taken out of flight, if
it was not lost. -/
theorem Booked.exists_report_of_stop {r : Run} {lost : List String} (h : Booked r lost) {id : String}
    {status : StepStatus} (stopped : .stop status ∈ r.told id) :
    (∃ x ∈ r.reports, x.id = id ∧ x.status = status) ∨
      (∃ f ∈ r.flights, f.id = id ∧ ∃ x, f.stage.report? = some x ∧ x.status = status) ∨
      id ∈ lost := by
  have hnone : ∀ output, ¬r.Recorded id [] output := by
    rintro output ⟨htold, -⟩
    rw [htold] at stopped
    cases stopped
  have hreport : ∀ x : Report, ∀ output, r.Recorded id [.start, .stop x.status] output →
      x.status = status := by
    rintro x output ⟨htold, -⟩
    rw [htold] at stopped
    simpa [eq_comm] using stopped
  by_cases hwaits : id ∈ r.waitingIds
  · exact absurd (h.waiting id hwaits) (hnone _)
  by_cases hreported : id ∈ r.reportIds
  · obtain ⟨x, hx, rfl⟩ := List.mem_map.1 hreported
    exact .inl ⟨x, hx, rfl, hreport x _ (h.reports x hx)⟩
  by_cases hflies : id ∈ r.flightIds
  · obtain ⟨f, hf, rfl⟩ := List.mem_map.1 hflies
    have hagrees := h.flights f hf
    right
    cases hstage : f.stage.report? with
    | some x => exact .inl ⟨f, hf, rfl, x, hstage, hreport x _ (hagrees.of_report? hstage)⟩
    | none =>
      -- of a step without a report nothing was told, or only its start, or its report is lost
      unfold Agrees at hagrees
      cases hcase : f.stage with
      | queued => rw [hcase] at hagrees; exact absurd hagrees (hnone _)
      | ended y =>
        rw [hcase] at hagrees hstage
        obtain rfl : y = none := hstage
        exact .inr (hagrees.resolve_left (hnone _))
      | closing y givenUp => rw [hcase] at hstage; cases hstage
      | _ =>
        rw [hcase] at hagrees
        rw [hagrees.1] at stopped
        simp at stopped
  · by_contra hnot
    rw [not_or, not_or] at hnot
    exact hnone _ (h.others id hwaits hflies hreported hnot.2.2)

/-- After the error of a step was told, steps are put in flight only while an error is being told or
when the report of the step is lost. Had the step been taken out of flight with its report, it would
have stopped the dispatcher. -/
theorem Sound.tells_or_loses {r : Run} {lost : List String} (h : Sound r lost)
    (running : r.phase = .running) (may : r.heed.collect.mayDispatch = true) {id : String}
    (failed : r.HasFailed id) : r.TellsError ∨ id ∈ lost := by
  obtain ⟨-, hheed⟩ := heed_eq_self h.placed running may
  rw [hheed] at may
  -- no report, of those that are taken out of flight now or before, is an error
  have hfine : r.collect.failure = none := (mayDispatch_iff.1 may).1
  have hreports := ((h.judged.collect h.placed).failure_eq_none_iff.1 hfine).2
  rw [collect_eq] at hreports
  rcases h.booked.exists_report_of_stop (hasFailed_iff.1 failed) with
    ⟨x, hx, -, hstatus⟩ | ⟨f, hf, -, x, hreport, hstatus⟩ | hlost
  · exact absurd hstatus (hreports x (List.mem_append_left _ hx))
  · cases hstage : f.stage with
    | closing y givenUp =>
      rw [hstage] at hreport
      cases hreport
      exact .inl ⟨f, hf, x, givenUp, hstage, hstatus⟩
    | ended y =>
      rw [hstage] at hreport
      have hover : x ∈ r.overReports := List.mem_filterMap.2 ⟨f, hf, by rw [hstage]; exact hreport⟩
      exact absurd hstatus (hreports x (List.mem_append_right _ hover))
    | _ => rw [hstage] at hreport; cases hreport
  · exact .inr hlost

/-! ## Runs that fail fast -/

/-- After the error of a step was told no step begins that was not in flight then. -/
def FailsFast (r : Run) (acts : List Act) : Prop :=
  ∀ front back failed id, acts = front ++ back → (r.performAll front).HasFailed failed →
    (r.performAll acts).HasBegun id →
      (r.performAll front).HasBegun id ∨ id ∈ (r.performAll front).flightIds

/-- In a round of the dispatcher a step is put in flight, and begins later, while the error of
another is being told or after the report of such an error was lost. -/
def Hasty (r : Run) (acts : List Act) : Prop :=
  ∃ front back id, acts = front ++ .round :: back ∧
    ((r.performAll front).TellsError ∨ ∃ failed ∈ r.lost front, (r.performAll front).HasFailed failed) ∧
    id ∈ (r.performAll front).launches .round ∧ (r.performAll acts).HasBegun id

/-- A run without haste fails fast: a step that begins after an error and was not in flight waited,
so it was put in flight in a round in between. -/
theorem Sound.failsFast {r : Run} {acts : List Act} (h : Sound r []) (calm : ¬Hasty r acts) :
    FailsFast r acts := by
  rintro front back failed id rfl hfailed hbegun
  by_contra hnot
  rw [not_or] at hnot
  have hfront := h.performAll front
  rw [performAll_append] at hbegun
  have hwaits : id ∈ (r.performAll front).waitingIds := by
    rcases hfront.waits_of_hasBegun hbegun with hbefore | hwaits | hflies
    · exact absurd hbefore hnot.1
    · exact hwaits
    · exact absurd hflies hnot.2
  obtain ⟨middle, rest, rfl, hlaunches⟩ :=
    exists_round_of_mem_launched (hfront.mem_launched hwaits hbegun)
  have hstill := hfailed.onward (hfront.onward middle)
  rw [← performAll_append] at hbegun hlaunches hstill
  obtain ⟨-, hacts, -, hmay⟩ := may_of_mem_launches hlaunches
  have htells := (h.performAll (front ++ middle)).tells_or_loses (running_of_dispatcherActs hacts)
    hmay hstill
  exact calm ⟨front ++ middle, rest, id, by rw [List.append_assoc],
    htells.imp_right fun hlost => ⟨failed, hlost, hstill⟩, hlaunches, hbegun⟩

theorem Sound.exists_hasFailed {r : Run} {lost : List String} (h : Sound r lost)
    (tells : r.TellsError) : ∃ failed, r.HasFailed failed := by
  obtain ⟨f, hf, x, givenUp, hstage, hstatus⟩ := tells
  refine ⟨f.id, hasFailed_iff.2 ?_⟩
  rw [((h.booked.flights f hf).of_report? (x := x) (by rw [hstage]; rfl)).1, hstatus]
  simp

/-- A run that fails fast is without haste: a step that is put in flight waited until then. -/
theorem Sound.calm {r : Run} {lost : List String} {acts : List Act} (h : Sound r lost)
    (fast : FailsFast r acts) : ¬Hasty r acts := by
  rintro ⟨front, back, id, rfl, htells, hlaunches, hbegun⟩
  have hfront := h.performAll front
  obtain ⟨failed, hfailed⟩ : ∃ failed, (r.performAll front).HasFailed failed :=
    htells.elim hfront.exists_hasFailed fun ⟨failed, _, hfailed⟩ => ⟨failed, hfailed⟩
  have hwaits : id ∈ (r.performAll front).waitingIds :=
    (hfront.placed.waitingIds_perm_perform .round).symm.subset (List.mem_append_left _ hlaunches)
  rcases fast front (.round :: back) failed id rfl hfailed hbegun with hbefore | hflies
  · rw [hasBegun_iff, (hfront.booked.waiting id hwaits).1] at hbefore
    cases hbefore
  · exact (hfront.placed.waits_only id hwaits).1 hflies

/-- A run in which steps are put in flight while the error of a step is being told has room for more
than one step in flight: the step whose error is told stays there. -/
theorem Sound.one_lt_concurrency {r : Run} {lost : List String} (h : Sound r lost)
    (tells : r.TellsError) (running : r.phase = .running)
    (may : r.heed.collect.mayDispatch = true) : 1 < r.plan.executor.concurrency := by
  obtain ⟨f, hf, x, givenUp, hstage, -⟩ := tells
  obtain ⟨-, hheed⟩ := heed_eq_self h.placed running may
  rw [hheed, collect_eq] at may
  have hroom := (mayDispatch_iff.1 may).2.2
  have hstays : f ∈ r.flights.filter fun f => !f.stage.isEnded :=
    List.mem_filter.2 ⟨hf, by rw [hstage]; rfl⟩
  exact Nat.lt_of_le_of_lt (List.length_pos_of_mem hstays) hroom

/-- There is haste only where several steps may be in flight and the listener takes time, or where
the listener gives up steps. -/
theorem Begins.of_hasty {plan : Plan} {r : Run} (begins : Begins plan r) (sound : Sound r [])
    {acts : List Act} (hasty : Hasty r acts) :
    (1 < plan.executor.concurrency ∧ ∃ e, plan.delivery.wait e ≠ .none) ∨
      ∃ e, plan.delivery.givesUp e = true := by
  obtain ⟨front, back, id, -, htells, hlaunches, -⟩ := hasty
  obtain ⟨-, hacts, hunstopped, hmay⟩ := may_of_mem_launches hlaunches
  have hrunning := running_of_dispatcherActs hacts
  have hsound := sound.performAll front
  have hplan : (r.performAll front).plan = plan :=
    (sound.about_performAll front).1.trans begins.plan_eq
  obtain ⟨huncancelled, -⟩ := heed_eq_self hsound.placed hrunning hmay
  rcases htells with htells | ⟨failed, hlost, -⟩
  · refine .inl ⟨hplan ▸ hsound.one_lt_concurrency htells hrunning hmay, ?_⟩
    by_contra hinstant
    push Not at hinstant
    obtain ⟨f, hf, x, givenUp, hstage, -⟩ := htells
    rcases begins.noneClosing front hinstant hacts with hheeded | hexpired | hnone
    · rw [hsound.judged.heeded hheeded] at huncancelled
      cases huncancelled
    · rw [hunstopped] at hexpired
      cases hexpired
    · have hclosing := hnone f hf
      rw [hstage] at hclosing
      cases hclosing
  · obtain ⟨e, -, hgives⟩ := hsound.forsakes_of_lost (sound.excused .nil front) hunstopped
      huncancelled hlost
    exact .inr ⟨e, hplan ▸ hgives⟩

/-- Nothing is begun by a run that ends before it is begun. -/
theorem Rests.failsFast {r : Run} {plan : Plan} {told : List RunEvent} (h : Rests r plan told)
    (ends : ∀ e ∈ told, e.isDone = true) (acts : List Act) : FailsFast r acts ∧ ¬Hasty r acts := by
  constructor
  · rintro front back failed id rfl - ⟨s, hs, -⟩
    rw [(h.performAll (front ++ back)).1.events] at hs
    cases ends _ hs
  · rintro ⟨front, back, id, rfl, -, -, s, hs, -⟩
    rw [(h.performAll (front ++ .round :: back)).1.events] at hs
    cases ends _ hs

/-- A run fails fast exactly if no step is put in flight, and begins later, while the error of
another is being told or after the report of such an error was lost. That takes room for more than
one step in flight and a listener that takes its time over some event, if only to let others have
their turn, or a listener that gives up a step. -/
theorem fails_fast_iff {plan : Plan} {r : Run} (begins : Begins plan r) (acts : List Act) :
    (FailsFast r acts ↔ ¬Hasty r acts) ∧
      (Hasty r acts →
        (1 < plan.executor.concurrency ∧ ∃ e, plan.delivery.wait e ≠ .none) ∨
          ∃ e, plan.delivery.givesUp e = true) := by
  cases begins.entry with
  | begun inputs accepted timed sound about fresh =>
    exact ⟨⟨sound.calm, sound.failsFast⟩, begins.of_hasty sound⟩
  | refused failure rejected rests reported =>
    obtain ⟨hfast, hcalm⟩ := rests.failsFast (by simp [RunEvent.isDone]) acts
    exact ⟨⟨fun _ => hcalm, fun _ => hfast⟩, fun hasty => absurd hasty hcalm⟩
  | raised fault faulty rests ended =>
    obtain ⟨hfast, hcalm⟩ := rests.failsFast (by simp) acts
    exact ⟨⟨fun _ => hcalm, fun _ => hfast⟩, fun hasty => absurd hasty hcalm⟩

/-! ## A step that begins too late -/

/-- A connector that fails the step `a` after 10 microseconds and gives back the input of all others
after 5. -/
def brittleConnector : Connector where
  name := "brittle"
  kind := .controlFlow
  call := fun step input _ environment =>
    (environment,
     if step.id = "a" then
       { wait := .time 10
         finish := fun environment =>
           (environment, .error (.failure (connectorFailure step.id (step.id ++ " fails")))) }
     else
       { wait := .time 5
         finish := fun environment => (environment, .ok (.value input)) })

/-- A workflow of a step on its own and two steps of which one comes after the other. -/
def oneAndTwo : Definition where
  id := "w"
  name := "W"
  steps :=
    [{ id := "a", kind := .controlFlow }, { id := "b", kind := .controlFlow },
     { id := "c", kind := .controlFlow }]
  mappings :=
    [{ source := .fixed, target := .step "b", targetPath := "x", value := .str "v" },
     { source := .step "b", sourcePath := "x", target := .step "c", targetPath := "x" }]

/-- The pipeline of that workflow, with two steps in flight at once and a listener that takes its
time over every event. -/
def oneAndTwoPlan : Plan where
  executor :=
    { registry := .ofConnectors {} [brittleConnector], concurrency := 2,
      concurrency_pos := Nat.two_pos }
  pipeline := ((oneAndTwo.compile none).toOption).getD default
  context := {}
  id := "r"
  origin := default
  delivery := Wait.time 50

/-- The run at its entry. -/
def oneAndTwoRun : Run := enter oneAndTwoPlan 0 {} none false

theorem oneAndTwoRun_begins : Begins oneAndTwoPlan oneAndTwoRun :=
  .of_isSome (by decide +kernel : (oneAndTwo.compile none).toOption.isSome = true) rfl 0 {} none
    false

/-- The step `b` succeeds and `a` fails; then the listener is done with `b`, and with `a` only
later. -/
def tooLate : List Act :=
  [.turn, .turn, .pass 50, .wake, .turn, .turn, .turn, .turn, .pass 55, .wake, .turn, .pass 60,
    .wake, .turn, .pass 105, .wake, .turn, .round, .turn]

theorem fails_fast_iff_tooLate :
    (FailsFast oneAndTwoRun tooLate ↔ ¬Hasty oneAndTwoRun tooLate) ∧
      (Hasty oneAndTwoRun tooLate →
        (1 < oneAndTwoPlan.executor.concurrency ∧ ∃ e, oneAndTwoPlan.delivery.wait e ≠ .none) ∨
          ∃ e, oneAndTwoPlan.delivery.givesUp e = true) :=
  fails_fast_iff oneAndTwoRun_begins tooLate

/-- When the error of `a` is told, `c` waits; then it is put in flight and begins. -/
theorem tooLate_not_failsFast :
    (oneAndTwoRun.performAll (tooLate.take 14)).HasFailed "a" ∧
      (oneAndTwoRun.performAll (tooLate.take 14)).flightIds = ["a", "b"] ∧
      (oneAndTwoRun.performAll (tooLate.take 14)).told "c" = [] ∧
      (oneAndTwoRun.performAll tooLate).HasBegun "c" ∧ ¬FailsFast oneAndTwoRun tooLate := by
  have hfailed : (oneAndTwoRun.performAll (tooLate.take 14)).HasFailed "a" :=
    hasFailed_iff.2 (by decide +kernel)
  have hflies : (oneAndTwoRun.performAll (tooLate.take 14)).flightIds = ["a", "b"] := by
    decide +kernel
  have htold : (oneAndTwoRun.performAll (tooLate.take 14)).told "c" = [] := by decide +kernel
  have hbegun : (oneAndTwoRun.performAll tooLate).HasBegun "c" :=
    hasBegun_iff.2 (by decide +kernel)
  refine ⟨hfailed, hflies, htold, hbegun, fun fast => ?_⟩
  rcases fast (tooLate.take 14) (tooLate.drop 14) "a" "c" (List.take_append_drop 14 _).symm hfailed
    hbegun with hbefore | hflying
  · rw [hasBegun_iff, htold] at hbefore
    cases hbefore
  · rw [hflies] at hflying
    simp at hflying

end Conduit.Run

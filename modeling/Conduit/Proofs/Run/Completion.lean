import Conduit.Proofs.Run.Conclusion
import Conduit.Proofs.Run.Dispatch

/-!
# Runs that are carried through

Every run comes to its end, and no step of it is put in flight twice. As long as nothing failed and
nobody asked for the run to be cancelled or gives up steps, the dispatcher is never stuck: when
nothing is in flight, a step may go or none is left. So a run in which every step succeeds carries
out all of its steps, each once, and it is completed if its output can be built.

* `Run.Unstuck`, `Run.Sound.unstuck` — the dispatcher finds a step that may go;
* `Run.begin_perm` — the steps that are put in flight when a run is begun;
* `Run.Sound.told_of_success` — every step is carried out;
* `Run.Orderly`, `Run.orderly_performAll` — what this comes to for runs.
-/

namespace Conduit.Run

/-! ## The dispatcher goes on -/

/-- When nothing is in flight, nothing failed and the run was not asked to be cancelled, the first
step that waits may go, if nobody gives up steps. -/
def Unstuck (r : Run) : Prop :=
  r.plan.Steadfast → r.flights = [] → r.failure = none → r.cancelled = false →
    ∀ s rest, r.waiting = s :: rest → r.isReady s = true

theorem Sound.unstuck {r : Run} {lost : List String} (h : Sound r lost) : Unstuck r :=
  fun steadfast idle fine uncancelled _ _ waits =>
    h.judged.isReady_head h.placed h.formed (h.judged.intact steadfast uncancelled) fine uncancelled
      idle waits

/-- A run stays sound while the dispatcher puts steps in flight. -/
theorem Sound.dispatchUpTo {r : Run} {lost : List String} (h : Sound r lost)
    (running : r.phase = .running) (fuel : Nat) : Sound (dispatchUpTo fuel r) lost := by
  have hchanges := (dispatchUpTo_changes fuel r running).induction (motive := Sound) lost h
    fun _ _ _ _ hq change => hq.change change
  rwa [List.append_nil] at hchanges

/-- In a round the dispatcher is not stuck before or after any step that it puts in flight. -/
theorem Sound.unstuck_round {r : Run} {lost : List String} (h : Sound r lost)
    (running : r.phase = .running) (fuel : Nat) : Unstuck (Run.dispatchUpTo fuel r.heed.collect) := by
  have hheed : r.heed.phase = .running := (heed_keeps r).1.trans running
  have hsound := ((heed_changes r running h.placed.flies_once).trans
    (Change.collects hheed).changes).induction (motive := Sound) lost h
    fun _ _ _ _ hq change => hq.change change
  exact (hsound.dispatchUpTo ((collect_keeps r.heed).1.trans hheed) fuel).unstuck

/-! ## What is put in flight -/

/-- When a run is begun, every step of the pipeline is put in flight or waits. -/
theorem begin_perm (plan : Plan) (now : Nat) (environment : Environment) (reader : Option Reader)
    (cancelled : Bool) (inputs : Members) (once : plan.pipeline.stepIds.Nodup) :
    plan.pipeline.stepIds.Perm
      (((prepare plan now environment reader cancelled).begin inputs).flightIds ++
        ((prepare plan now environment reader cancelled).begin inputs).waitingIds) := by
  have hdispatch := waitingIds_perm_dispatchUpTo plan.pipeline.steps.length
    (r := loaded plan now environment reader cancelled inputs) once
  have hflights := flightIds_dispatchUpTo plan.pipeline.steps.length
    (loaded plan now environment reader cancelled inputs)
  show plan.pipeline.stepIds.Perm
    ((dispatchUpTo plan.pipeline.steps.length
        (loaded plan now environment reader cancelled inputs)).concludeIfIdle.flightIds ++
      (dispatchUpTo plan.pipeline.steps.length
        (loaded plan now environment reader cancelled inputs)).concludeIfIdle.waitingIds)
  rw [(concludeIfIdle_alike _).flightIds, (concludeIfIdle_alike _).waitingIds, hflights]
  exact hdispatch

/-- A step whose connector is at work has no output yet. -/
theorem Booked.record_eq_ok {r : Run} {lost : List String} (h : Booked r lost) {f : Flight}
    (hf : f ∈ r.flights) {call : Call} {overdue : Bool} (stage : f.stage = .calling call overdue)
    (output : Output) : ∃ outputs, r.outputs.record f.id output = .ok outputs := by
  have hnone := ((h.flights f hf).of_isUnderway (by rw [stage]; rfl)).2
  refine ⟨_, if_neg ?_⟩
  unfold Outputs.has
  rw [hnone]
  simp

/-! ## Runs in which every step succeeds -/

/-- Every step that was reported succeeded. -/
def AllSucceeded (r : Run) : Prop := ∀ x ∈ r.reports, x.status = .success

theorem AllSucceeded.intact {r : Run} (h : r.AllSucceeded) (kept : ∀ id, ¬r.plan.Forsakes id) :
    Intact r where
  listener := kept
  reports x hx hcancelled := by
    rw [h x hx] at hcancelled
    cases hcancelled

/-- A run in which every step succeeded has failed only if its time limit stopped it. -/
theorem Judged.failure_of_allSucceeded {r : Run} (h : Judged r) (unstopped : r.expired = none)
    (all : r.AllSucceeded) : r.failure = none := by
  refine h.failure_eq_none_iff.2 ⟨unstopped, fun x hx => ?_⟩
  rw [all x hx]
  simp

/-- Every step of a run that is over, did not fail and was not cancelled was carried out, if none
was given up. -/
theorem Sound.told_of_success {r : Run} {lost : List String} (h : Sound r lost)
    (intact : Intact r) (ended : r.isOver = true) (fine : r.failure = none)
    (uncancelled : r.cancelled = false) :
    ∀ s ∈ r.plan.pipeline.steps,
      r.told s.step.id = [.start, .stop .success] ∧ r.outputs.has s.step.id = true := by
  intro s hs
  obtain ⟨x, hx, hid, hstatus⟩ := h.exists_report intact ended fine uncancelled hs
  rw [← hid]
  refine ⟨?_, h.booked.has_of_report hx hstatus⟩
  rw [(h.booked.reports x hx).1, hstatus]

/-- Such a run is completed exactly if its output can be built and its listener hears it out. -/
theorem Sound.completed_iff {r : Run} {lost : List String} (h : Sound r lost)
    (intact : Intact r) (ended : r.isOver = true) (fine : r.failure = none)
    (uncancelled : r.cancelled = false) :
    (∃ result, r.returned? = some result ∧ result.state = .completed) ↔
      r.OutputBuilt ∧ r.HeardOut := by
  have hreturned := (h.standing.of_isOver ended).2.2
  have hsize := h.size_le_of_has fun s hs =>
    (h.told_of_success intact ended fine uncancelled s hs).2
  rcases h.standing.ends_told_or_raised ended with ⟨htold, hboth⟩ | ⟨hraised, hnot⟩
  · obtain ⟨result, hresult, -⟩ := htold
    refine iff_of_true ⟨result, hresult, ?_⟩ hboth
    -- it has not failed and has as many outputs as steps, so it is not cancelled either
    rcases result_cases ((hreturned result).1 hresult).1 with ⟨failure, hfailure, -⟩ | ⟨-, hless, -⟩ |
      ⟨-, -, output, -, rfl⟩
    · rw [fine] at hfailure
      cases hfailure
    · omega
    · rfl
  · exact iff_of_false (fun ⟨_, hresult, _⟩ => hraised.not_returned hresult) hnot

/-- A run ends as cancelled only if it was asked to be, if nobody gives up steps. -/
theorem Sound.cancelled_of_state {r : Run} {lost : List String} (h : Sound r lost)
    (steadfast : r.plan.Steadfast) (ended : r.isOver = true) {result : RunResult}
    (returned : r.returned? = some result) (state : result.state = .cancelled) :
    r.cancelled = true := by
  obtain ⟨hresult, -⟩ := ((h.standing.of_isOver ended).2.2 result).1 returned
  by_contra hasked
  have huncancelled : r.cancelled = false := by simpa using hasked
  rcases result_cases hresult with ⟨failure, -, rfl⟩ | ⟨hfine, hless, -⟩ | ⟨-, -, output, -, rfl⟩
  · cases state
  · have hsize := h.size_le_of_has fun s hs =>
      (h.told_of_success (h.judged.intact steadfast huncancelled) ended hfine huncancelled s hs).2
    omega
  · cases state

/-! ## All runs -/

theorem isOver_of_returned? {r : Run} {result : RunResult} (h : r.returned? = some result) :
    r.isOver = true := by
  unfold returned? at h
  unfold isOver
  split at h
  · next hphase => rw [hphase]
  · cases h

/-- In a history of a run that can begin, every step of the pipeline is put in flight, once, or
still waits. -/
theorem enter_perm {plan : Plan} (formed : plan.pipeline.WellFormed) {inputs : Members}
    (can : plan.CanBegin inputs) (now : Nat) (environment : Environment) (reader : Option Reader)
    (cancelled : Bool) (acts : List Act) :
    plan.pipeline.stepIds.Perm
      ((enter plan now environment reader cancelled).flightIds ++
        (enter plan now environment reader cancelled).launched acts ++
        ((enter plan now environment reader cancelled).performAll acts).waitingIds) := by
  have hplaced := (Alive.enter formed now environment reader cancelled).placed
  have hrest := (hplaced.waitingIds_perm_performAll acts).append_left
    (enter plan now environment reader cancelled).flightIds
  have hbegin := begin_perm plan now environment reader cancelled inputs formed.stepIds_nodup
  rw [← enter_eq_begin can.1 can.2] at hbegin
  rw [List.append_assoc]
  exact hbegin.trans hrest

/-- How a run of a plan goes, from its entry `r` on, in a history. -/
structure Orderly (plan : Plan) (r : Run) (acts : List Act) : Prop where
  /-- It comes to its end when it goes on until all is done. -/
  ends : (r.performAll acts).finish.isOver = true
  /-- No step is put in flight twice. -/
  once : (r.flightIds ++ r.launched acts).Nodup
  /-- A step whose connector is at work has no output yet. -/
  records : ∀ f ∈ (r.performAll acts).flights, ∀ call overdue output,
    f.stage = .calling call overdue →
      ∃ outputs, (r.performAll acts).outputs.record f.id output = .ok outputs
  /-- It is not stuck after an act. -/
  unstuck : Unstuck (r.performAll acts)
  /-- The dispatcher is not stuck before or after any step that it puts in flight. -/
  unstuck_round : (r.performAll acts).dispatcherActs = true →
    ∀ fuel, Unstuck (dispatchUpTo fuel (r.performAll acts).heed.collect)
  /-- If every step succeeds, nothing stops the run and the listener gives up no step, all steps are
  put in flight, once, and carried out. -/
  all : (∀ id, ¬plan.Forsakes id) → (r.performAll acts).isOver = true →
    (r.performAll acts).cancelled = false → (r.performAll acts).expired = none →
    (r.performAll acts).AllSucceeded → ∀ inputs, plan.CanBegin inputs →
      plan.pipeline.stepIds.Perm (r.flightIds ++ r.launched acts) ∧
        ∀ s ∈ plan.pipeline.steps,
          (r.performAll acts).told s.step.id = [.start, .stop .success]
  /-- Such a run is completed exactly if it could begin, its output can be built and its listener
  hears it out. -/
  completed : (∀ id, ¬plan.Forsakes id) → (r.performAll acts).isOver = true →
    (r.performAll acts).cancelled = false → (r.performAll acts).expired = none →
    (r.performAll acts).AllSucceeded →
      ((∃ result, (r.performAll acts).returned? = some result ∧ result.state = .completed) ↔
        (∃ inputs, plan.CanBegin inputs) ∧ (r.performAll acts).OutputBuilt ∧
          (r.performAll acts).HeardOut)
  /-- It ends as cancelled only if it was asked to be, if nobody gives up steps. -/
  cancelled : plan.Steadfast → ∀ result, (r.performAll acts).returned? = some result →
    result.state = .cancelled → (r.performAll acts).cancelled = true

/-- A run that is begun is orderly. -/
theorem Sound.orderly {plan : Plan} {r : Run} {inputs : Members} (h : Sound r [])
    (about : r.plan = plan) (can : plan.CanBegin inputs) {acts : List Act}
    (ends : (r.performAll acts).finish.isOver = true)
    (steps : plan.pipeline.stepIds.Perm
      (r.flightIds ++ r.launched acts ++ (r.performAll acts).waitingIds)) :
    Orderly plan r acts := by
  have hsound := h.performAll acts
  have hplan : (r.performAll acts).plan = plan := (h.about_performAll acts).1.trans about
  refine
    { ends := ends, once := h.placed.nodup_launched acts, records := ?_, unstuck := hsound.unstuck,
      unstuck_round := ?_, all := ?_, completed := ?_, cancelled := ?_ }
  · exact fun f hf call overdue output stage => hsound.booked.record_eq_ok hf stage output
  · exact fun hacts => hsound.unstuck_round (running_of_dispatcherActs hacts)
  · intro hkept hover huncancelled hunstopped hall _ _
    rw [← hplan] at hkept
    have hintact := hall.intact hkept
    have hfine := hsound.judged.failure_of_allSucceeded hunstopped hall
    have hnone := (hsound.standing.of_isOver hover).2.1 hintact hfine huncancelled
    have htold := hsound.told_of_success hintact hover hfine huncancelled
    unfold waitingIds at steps
    rw [hnone, List.map_nil, List.append_nil] at steps
    rw [hplan] at htold
    exact ⟨steps, fun s hs => (htold s hs).1⟩
  · intro hkept hover huncancelled hunstopped hall
    rw [← hplan] at hkept
    have hfine := hsound.judged.failure_of_allSucceeded hunstopped hall
    rw [hsound.completed_iff (hall.intact hkept) hover hfine huncancelled]
    exact ⟨fun hbuilt => ⟨⟨inputs, can⟩, hbuilt⟩, fun hboth => hboth.2⟩
  · intro hsteadfast result returned
    rw [← hplan] at hsteadfast
    exact hsound.cancelled_of_state hsteadfast (isOver_of_returned? returned) returned

/-- A run that ends before it is begun puts nothing in flight. -/
theorem Rests.launched {plan : Plan} {r : Run} {told : List RunEvent} (h : Rests r plan told)
    (acts : List Act) : r.launched acts = [] :=
  launched_eq_nil (fun front => (h.performAll front).1.phase) acts

/-- A run that ends before it is begun, and not as completed or cancelled, is orderly. -/
theorem Rests.orderly {plan : Plan} {r : Run} {told : List RunEvent} (h : Rests r plan told)
    (cannot : ∀ inputs, ¬plan.CanBegin inputs) {acts : List Act}
    (ends : (r.performAll acts).finish.isOver = true)
    (unsuccessful : ∀ result, (r.performAll acts).returned? = some result → result.state = .failed) :
    Orderly plan r acts := by
  obtain ⟨hrests, -⟩ := h.performAll acts
  refine
    { ends := ends, once := ?_, records := ?_, unstuck := ?_, unstuck_round := ?_, all := ?_,
      completed := ?_, cancelled := ?_ }
  · rw [h.launched acts, flightIds_eq_nil h.flights]
    exact .nil
  · intro f hf
    rw [hrests.flights] at hf
    cases hf
  · intro _ _ _ _ s rest hwaits
    rw [hrests.waiting] at hwaits
    cases hwaits
  · exact fun hacts => absurd (running_of_dispatcherActs hacts) hrests.phase
  · exact fun _ _ _ _ _ inputs can => absurd can (cannot inputs)
  · intro _ _ _ _ _
    constructor
    · rintro ⟨result, hreturned, hstate⟩
      rw [unsuccessful result hreturned] at hstate
      cases hstate
    · rintro ⟨⟨inputs, can⟩, -⟩
      exact absurd can (cannot inputs)
  · intro _ result hreturned hstate
    rw [unsuccessful result hreturned] at hstate
    cases hstate

/-- Every run is orderly, and the dispatcher is not stuck when it begins one: as long as nothing
failed and nobody asked for the run to be cancelled or gives up steps, a step that waits can go
whenever nothing is in flight. If every step succeeds, all are carried out, each once; the run is
then completed exactly if its output can be built and its listener does not give up over its end. -/
theorem orderly_performAll {plan : Plan}
    (compiled : ∃ (d : Definition) (schema : Option Members), d.compile schema = .ok plan.pipeline)
    (now : Nat) (environment : Environment) (reader : Option Reader) (cancelled : Bool)
    (acts : List Act) :
    Orderly plan (enter plan now environment reader cancelled) acts ∧
      ∀ inputs fuel,
        Unstuck (dispatchUpTo fuel (loaded plan now environment reader cancelled inputs)) := by
  have hbegins : Begins plan (enter plan now environment reader cancelled) :=
    ⟨compiled, now, environment, reader, cancelled, rfl⟩
  obtain ⟨d, schema, hcompiled⟩ := compiled
  have hformed : plan.pipeline.WellFormed := .of_compile hcompiled
  obtain ⟨more, hmore, hover⟩ := hbegins.finish_eq acts
  rw [← hmore] at hover
  refine ⟨?_, fun inputs fuel => ?_⟩
  · cases hbegins.entry with
    | begun inputs accepted timed sound about fresh =>
      exact sound.orderly about.1 ⟨accepted, timed⟩ hover
        (enter_perm hformed ⟨accepted, timed⟩ now environment reader cancelled acts)
    | refused failure rejected rests reported =>
      obtain ⟨-, -, hresult, -⟩ := rests.performAll acts
      refine rests.orderly (fun inputs can => ?_) hover fun result returned => ?_
      · exact absurd (rejected.symm.trans can.1) (by simp)
      · have hphase := result?_of_returned? returned
        rw [hresult, reported] at hphase
        rw [← Option.some.inj hphase]
        rfl
    | raised fault faulty rests ended =>
      obtain ⟨time, hraised⟩ := ended
      obtain ⟨-, -, -, hkept⟩ := rests.performAll acts
      refine rests.orderly (fun inputs can => ?_) hover fun result returned => ?_
      · rcases faulty with hfault | ⟨-, hlimit⟩
        · exact absurd (hfault.symm.trans can.1) (by simp)
        · rw [can.2] at hlimit
          cases hlimit
      · have hphase := result?_of_returned? returned
        rw [hkept _ _ hraised] at hphase
        cases hphase
  · exact ((Sound.loaded hformed now environment reader cancelled inputs).dispatchUpTo rfl
      fuel).unstuck

theorem orderly_performAll_misfit :
    Orderly misfitPlan misfitRun [] ∧
      ∀ inputs fuel, Unstuck (dispatchUpTo fuel (loaded misfitPlan 0 {} none false inputs)) :=
  orderly_performAll misfitRun_begins.compiled 0 {} none false []

/-- A run in which every step succeeds and that nothing stops is over, but it is not completed: its
output cannot be built. -/
theorem misfit_not_completed :
    misfitPlan.CanBegin [] ∧ misfitRun.finish.isOver = true ∧ misfitRun.finish.cancelled = false ∧
      misfitRun.finish.expired = none ∧ misfitRun.finish.AllSucceeded ∧
      misfitRun.finish.succeeded = misfitPlan.pipeline.stepIds ∧
      ¬∃ result, misfitRun.finish.returned? = some result ∧ result.state = .completed := by
  have hnone : misfitRun.finish.returned? = none := by decide +kernel
  refine ⟨⟨by decide +kernel, rfl⟩, by decide +kernel, by decide +kernel, by decide +kernel, ?_,
    by decide +kernel, ?_⟩
  · show ∀ x ∈ misfitRun.finish.reports, x.status = .success
    decide +kernel
  · rintro ⟨result, hreturned, -⟩
    rw [hnone] at hreturned
    cases hreturned

end Conduit.Run

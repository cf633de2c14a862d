import Conduit.Proofs.Run.Ending
import Mathlib.Data.List.Perm.Subperm

/-!
# What results say of steps

The result of a run lists the reports of its steps, and it is right about them: steps are listed
that were begun, outputs are there of those that succeeded, and a run is completed if all of them
did. The exception is a step whose report is lost, because it was interrupted while the listener
took its time over the end of the step or because the listener gave it up over that.

* `Report.sorted_perm`, `Run.mem_stepResults` — the order of the reports;
* `Run.result_cases` — the results that a run can have;
* `Run.Accounted` — what a result is right about;
* `Run.accounted_iff` — when it is.
-/

namespace Conduit

/-! ## The order of reports -/

namespace Report

theorem insert_perm (x : Report) (reports : List Report) :
    (x.insert reports).Perm (x :: reports) := by
  induction reports with
  | nil => exact .refl _
  | cons y rest ih =>
    unfold insert
    split
    · exact (ih.cons y).trans (.swap x y rest)
    · exact .refl _

/-- Putting reports in order drops and repeats none. -/
theorem sorted_perm (reports : List Report) : (sorted reports).Perm reports := by
  -- what was put in order so far is general in the induction
  have hfold : ∀ front : List Report,
      (reports.foldl (fun acc x => x.insert acc) front).Perm (front ++ reports) := by
    induction reports with
    | nil =>
      intro front
      rw [List.append_nil]
      exact .refl _
    | cons x rest ih =>
      intro front
      refine (ih (x.insert front)).trans ?_
      exact ((insert_perm x front).append_right rest).trans List.perm_middle.symm
  exact hfold []

end Report

namespace Run

theorem mem_stepResults {r : Run} {s : StepResult} :
    s ∈ r.stepResults ↔ ∃ x ∈ r.reports, x.result r.plan.moment r.environment = s := by
  unfold stepResults
  rw [List.mem_map]
  constructor
  · rintro ⟨x, hx, rfl⟩
    exact ⟨x, (Report.sorted_perm r.reports).subset hx, rfl⟩
  · rintro ⟨x, hx, rfl⟩
    exact ⟨x, (Report.sorted_perm r.reports).symm.subset hx, rfl⟩

/-- The results of the steps are about the steps that were reported. -/
theorem stepResults_steps_perm (r : Run) :
    (r.stepResults.map StepResult.step).Perm r.reportIds := by
  unfold stepResults
  rw [List.map_map]
  exact (Report.sorted_perm r.reports).map _

/-! ## Results -/

/-- The result that a run returned. -/
def returned? (r : Run) : Option RunResult :=
  match r.phase with
  | .over (.finished result) _ => some result
  | _ => none

theorem result?_of_returned? {r : Run} {result : RunResult} (h : r.returned? = some result) :
    r.phase.result? = some result := by
  unfold returned? at h
  split at h
  · next hphase => rw [hphase]; exact h
  · cases h

/-- What a run that is over reported is what it returned, if the listener did not give up over it.
-/
theorem returned?_iff_of_isOver {r : Run} (ended : r.isOver = true)
    (accords : r.phase.Accords r.plan.delivery) {result : RunResult} :
    r.returned? = some result ↔
      r.phase.result? = some result ∧ r.plan.delivery.givesUpEnd result = false := by
  unfold isOver at ended
  cases hphase : r.phase with
  | running => rw [hphase] at ended; cases ended
  | closing other due => rw [hphase] at ended; cases ended
  | «over» ending time =>
    have hending := accords ending time
    unfold returned?
    rw [hphase]
    change _ ↔ ending.result? = some result ∧ _
    constructor
    · intro hreturned
      cases ending with
      | finished other =>
        cases hreturned
        refine ⟨rfl, ?_⟩
        by_contra hgives
        have hforsaken := hending _ hphase rfl
        rw [Delivery.endingOf, if_pos (by simpa using hgives)] at hforsaken
        cases hforsaken
      | _ => cases hreturned
    · rintro ⟨hresult, hgives⟩
      rw [hending result hphase hresult, Delivery.endingOf, if_neg (by simp [hgives])]

/-- A run that is over and whose listener gave up over what it reported has not returned that. -/
theorem forsaken_of_isOver {r : Run} (ended : r.isOver = true)
    (accords : r.phase.Accords r.plan.delivery) {result : RunResult}
    (told : r.phase.result? = some result) (gives : r.plan.delivery.givesUpEnd result = true) :
    ∃ time, r.phase = .over (.forsaken result) time := by
  unfold isOver at ended
  cases hphase : r.phase with
  | running => rw [hphase] at ended; cases ended
  | closing other due => rw [hphase] at ended; cases ended
  | «over» ending time =>
    rw [hphase] at told
    rw [accords ending time result hphase told, Delivery.endingOf, if_pos gives]
    exact ⟨time, rfl⟩

/-- A run that is over has nothing in flight, and if nothing failed nothing waits. -/
theorem Standing.of_isOver {r : Run} (h : Standing r) (ended : r.isOver = true) :
    r.flights = [] ∧
      (Intact r → r.failure = none → r.cancelled = false → r.waiting = []) ∧
      ∀ result, r.returned? = some result ↔
        r.result = .ok result ∧ r.plan.delivery.givesUpEnd result = false := by
  cases h with
  | runs phase quiet =>
    unfold isOver at ended
    rw [phase] at ended
    cases ended
  | ends result phase rest concluded complete told accords =>
    refine ⟨rest, complete, fun other => ?_⟩
    rw [concluded, returned?_iff_of_isOver ended accords, phase]
    simp
  | raises trouble time phase rest concluded complete quiet =>
    refine ⟨rest, complete, fun result => ?_⟩
    unfold returned?
    rw [phase, concluded]
    simp

/-- A run that is over told the result that its records make. -/
theorem Standing.done_mem {r : Run} (h : Standing r) (ended : r.isOver = true) {result : RunResult}
    (concluded : r.result = .ok result) : .done result ∈ r.events := by
  cases h with
  | runs phase quiet =>
    unfold isOver at ended
    rw [phase] at ended
    cases ended
  | ends other phase rest concluded' complete told accords =>
    cases concluded'.symm.trans concluded
    obtain ⟨es, hevents, -⟩ := told
    rw [hevents]
    exact List.mem_append_right _ List.mem_cons_self
  | raises trouble time phase rest concluded' complete quiet =>
    cases concluded'.symm.trans concluded

/-- In a run that is over, has not failed and was not cancelled every step was reported to have
succeeded, if none was given up: nothing waits or is in flight any more. -/
theorem Sound.exists_report {r : Run} {lost : List String} (h : Sound r lost)
    (intact : Intact r) (ended : r.isOver = true) (fine : r.failure = none)
    (uncancelled : r.cancelled = false) {s : PipelineStep} (hs : s ∈ r.plan.pipeline.steps) :
    ∃ x ∈ r.reports, x.id = s.step.id ∧ x.status = .success := by
  obtain ⟨hrest, hcomplete, -⟩ := h.standing.of_isOver ended
  rcases h.judged.everyone s hs with hwaits | hflies | hreported | hheeded | hexpired | hforsakes
  · unfold waitingIds at hwaits
    rw [hcomplete intact fine uncancelled] at hwaits
    cases hwaits
  · rw [flightIds_eq_nil hrest] at hflies
    cases hflies
  · obtain ⟨x, hx, hid⟩ := List.mem_map.1 hreported
    exact ⟨x, hx, hid, h.judged.success_of_mem intact fine hx⟩
  · have hcancelled := h.judged.heeded hheeded
    rw [uncancelled] at hcancelled
    cases hcancelled
  · rw [(h.judged.failure_eq_none_iff.1 fine).1] at hexpired
    cases hexpired
  · exact absurd hforsakes (intact.listener _)

/-- A run with nothing in flight has failed, was cancelled or is completed. -/
theorem result_cases {r : Run} {result : RunResult} (h : r.result = .ok result) :
    (∃ failure, r.failure = some failure ∧ result = r.unsuccessful .failed failure) ∨
      (r.failure = none ∧ r.outputs.size < r.plan.pipeline.steps.length ∧
        result = r.unsuccessful .cancelled runCancelled) ∨
      (r.failure = none ∧ r.plan.pipeline.steps.length ≤ r.outputs.size ∧
        ∃ output, r.plan.pipeline.buildOutput (r.outputs.read r.environment) r.inputs = .ok output ∧
          result = r.successful output) := by
  unfold Run.result at h
  cases hfailure : r.failure with
  | some failure =>
    rw [hfailure] at h
    exact .inl ⟨failure, rfl, (Except.ok.inj h).symm⟩
  | none =>
    rw [hfailure] at h
    dsimp only at h
    by_cases hsize : r.outputs.size < r.plan.pipeline.steps.length
    · rw [if_pos hsize] at h
      exact .inr (.inl ⟨rfl, hsize, (Except.ok.inj h).symm⟩)
    · rw [if_neg hsize] at h
      split at h
      · next output hbuilt =>
        exact .inr (.inr ⟨rfl, Nat.le_of_not_lt hsize, output, hbuilt, (Except.ok.inj h).symm⟩)
      · cases h

theorem steps_of_result {r : Run} {result : RunResult} (h : r.result = .ok result) :
    result.steps = r.stepResults := by
  rcases result_cases h with ⟨failure, -, rfl⟩ | ⟨-, -, rfl⟩ | ⟨-, -, output, -, rfl⟩
  · rfl
  · rfl
  · rfl

/-! ## Accounts -/

/-- What a result is right about. -/
structure Accounted (r : Run) (result : RunResult) : Prop where
  /-- A step whose start was told has one result. -/
  once : ∀ s, .started s ∈ r.events → (result.steps.map StepResult.step).count s.step.id = 1
  /-- No other step has one. -/
  only : ∀ x ∈ result.steps, ∃ s, .started s ∈ r.events ∧ s.step.id = x.step
  /-- The steps with an output are those whose result is a success. -/
  outputs : ∀ id, r.outputs.has id = true ↔ ∃ x ∈ result.steps, x.step = id ∧ x.status = .success
  /-- The run is completed when all steps succeeded. -/
  completed : result.state = .completed ↔
    ∀ s ∈ r.plan.pipeline.steps, ∃ x ∈ result.steps, x.step = s.step.id ∧ x.status = .success

/-- The start of a step was told if the first thing told of it is that it begins. -/
theorem exists_started_iff {r : Run} {id : String} :
    (∃ s, .started s ∈ r.events ∧ s.step.id = id) ↔ .start ∈ r.told id := by
  unfold told
  rw [List.mem_filterMap]
  constructor
  · rintro ⟨s, hs, rfl⟩
    exact ⟨_, hs, if_pos rfl⟩
  · rintro ⟨e, he, hnotice⟩
    cases e with
    | started s =>
      refine ⟨s, he, ?_⟩
      by_contra hne
      rw [show RunEvent.noticeOf id (.started s) = none from if_neg hne] at hnotice
      cases hnotice
    | completed s output micros =>
      simp [RunEvent.noticeOf] at hnotice
    | stopped s status failure micros =>
      simp [RunEvent.noticeOf] at hnotice
    | done result => cases hnotice

/-- A step that succeeded has its result among those of the run. -/
theorem exists_success_iff {r : Run} {id : String} :
    (∃ x ∈ r.stepResults, x.step = id ∧ x.status = .success) ↔
      ∃ x ∈ r.reports, x.id = id ∧ x.status = .success := by
  constructor
  · rintro ⟨s, hs, hid, hstatus⟩
    obtain ⟨x, hx, rfl⟩ := mem_stepResults.1 hs
    exact ⟨x, hx, hid, hstatus⟩
  · rintro ⟨x, hx, hid, hstatus⟩
    exact ⟨_, mem_stepResults.2 ⟨x, hx, rfl⟩, hid, hstatus⟩

/-- The steps with an output are those that succeeded, if no report was lost. -/
theorem Sound.has_iff {r : Run} (h : Sound r []) (idle : r.flights = []) (id : String) :
    r.outputs.has id = true ↔ ∃ x ∈ r.reports, x.id = id ∧ x.status = .success := by
  unfold Outputs.has
  constructor
  · intro hhas
    by_cases hreported : id ∈ r.reportIds
    · obtain ⟨x, hx, rfl⟩ := List.mem_map.1 hreported
      have hrecorded := h.booked.reports x hx
      refine ⟨x, hx, rfl, ?_⟩
      rw [hrecorded.2] at hhas
      unfold Report.given at hhas
      by_contra hstatus
      rw [if_neg hstatus] at hhas
      cases hhas
    · rw [(h.booked.recorded_of_idle idle hreported List.not_mem_nil).2] at hhas
      cases hhas
  · rintro ⟨x, hx, rfl, hstatus⟩
    exact h.booked.has_of_report hx hstatus

/-- A run that failed has a step that did not succeed. -/
theorem Sound.exists_unsuccessful {r : Run} {lost : List String} (h : Sound r lost)
    (halted : ∀ limit, r.expired = some limit → Halted r limit) (failed : r.failure ≠ none) :
    ∃ s ∈ r.plan.pipeline.steps, ¬∃ x ∈ r.reports, x.id = s.step.id ∧ x.status = .success := by
  cases hexpired : r.expired with
  | some limit =>
    -- the time limit stopped the run while a step was in flight
    obtain ⟨s, hs, hnot⟩ := (halted limit hexpired).unfinished
    refine ⟨s, hs, ?_⟩
    rintro ⟨x, hx, hid, hstatus⟩
    exact hnot (hid ▸ h.judged.mem_succeeded hx hstatus)
  | none =>
    -- a step failed, and its only report says so
    have hnot := mt h.judged.failure_eq_none_iff.2 failed
    rw [not_and] at hnot
    have herror := hnot hexpired
    push Not at herror
    obtain ⟨x, hx, hstatus⟩ := herror
    refine ⟨x.item, h.placed.reported x hx, ?_⟩
    rintro ⟨y, hy, hid, hsuccess⟩
    have hsame : y = x := List.inj_on_of_nodup_map h.placed.reported_once hy hx hid
    rw [hsame, hstatus] at hsuccess
    cases hsuccess

/-- All steps have an output if there are as many outputs as steps. -/
theorem Sound.has_of_size_le {r : Run} {lost : List String} (h : Sound r lost)
    (known : ∀ id, r.outputs.has id = true → id ∈ r.plan.pipeline.stepIds)
    (size : r.plan.pipeline.steps.length ≤ r.outputs.size) :
    ∀ s ∈ r.plan.pipeline.steps, r.outputs.has s.step.id = true := by
  have hhas : ∀ id, id ∈ r.outputs.steps ↔ r.outputs.has id = true := by
    intro id
    rw [Outputs.mem_steps_iff, ← Option.isSome_iff_exists]
    rfl
  -- the steps with outputs are distinct steps of the pipeline, and as many as there are
  have hsub : r.outputs.steps.Subperm r.plan.pipeline.stepIds :=
    List.subperm_of_subset h.booked.outputs fun id hid => known id ((hhas id).1 hid)
  have hperm : r.outputs.steps.Perm r.plan.pipeline.stepIds := by
    refine hsub.perm_of_length_le ?_
    rw [← Outputs.size_eq, Pipeline.stepIds, List.length_map]
    exact size
  intro s hs
  exact (hhas _).1 (hperm.symm.subset (List.mem_map_of_mem hs))

/-- There are as many outputs as steps if all steps have an output. -/
theorem Sound.size_le_of_has {r : Run} {lost : List String} (h : Sound r lost)
    (all : ∀ s ∈ r.plan.pipeline.steps, r.outputs.has s.step.id = true) :
    r.plan.pipeline.steps.length ≤ r.outputs.size := by
  have hsub : r.plan.pipeline.stepIds.Subperm r.outputs.steps := by
    refine List.subperm_of_subset h.formed.stepIds_nodup fun id hid => ?_
    obtain ⟨s, hs, rfl⟩ := List.mem_map.1 hid
    rw [Outputs.mem_steps_iff, ← Option.isSome_iff_exists]
    exact all s hs
  have hle := hsub.length_le
  rw [Pipeline.stepIds, List.length_map] at hle
  rw [Outputs.size_eq]
  exact hle

/-- The result of a run in which no report was lost is right. -/
theorem Sound.accounted {r : Run} {result : RunResult} (h : Sound r [])
    (halted : ∀ limit, r.expired = some limit → Halted r limit) (idle : r.flights = [])
    (concluded : r.result = .ok result) : Accounted r result := by
  have hsteps := steps_of_result concluded
  have hhas := h.has_iff idle
  refine { once := ?_, only := ?_, outputs := ?_, completed := ?_ }
  · intro s hs
    have hstart : .start ∈ r.told s.step.id := exists_started_iff.1 ⟨s, hs, rfl⟩
    -- a step that is nowhere to be found was never told to begin
    have hreported : s.step.id ∈ r.reportIds := by
      by_contra hnot
      rw [(h.booked.recorded_of_idle idle hnot List.not_mem_nil).1] at hstart
      cases hstart
    rw [hsteps, (stepResults_steps_perm r).count_eq]
    exact List.count_eq_one_of_mem h.placed.reported_once hreported
  · intro s hs
    rw [hsteps] at hs
    obtain ⟨x, hx, rfl⟩ := mem_stepResults.1 hs
    rw [exists_started_iff]
    show .start ∈ r.told x.id
    rw [(h.booked.reports x hx).1]
    exact List.mem_cons_self
  · intro id
    rw [hsteps, exists_success_iff]
    exact hhas id
  · rw [hsteps]
    simp only [exists_success_iff]
    rcases result_cases concluded with ⟨failure, hfailure, rfl⟩ | ⟨-, hsize, rfl⟩ |
      ⟨-, hsize, output, -, rfl⟩
    · refine ⟨(fun hstate => by cases hstate), fun hall => ?_⟩
      obtain ⟨s, hs, hnot⟩ := h.exists_unsuccessful halted (by rw [hfailure]; simp)
      exact absurd (hall s hs) hnot
    · refine ⟨(fun hstate => by cases hstate), fun hall => ?_⟩
      have hle := h.size_le_of_has fun s hs => (hhas _).2 (hall s hs)
      omega
    · refine ⟨fun _ s hs => (hhas _).1 (h.has_of_size_le ?_ hsize s hs), fun _ => rfl⟩
      intro id hid
      obtain ⟨x, hx, rfl, -⟩ := (hhas id).1 hid
      exact List.mem_map_of_mem (h.placed.reported x hx)

/-- A result is not right about a step whose report was lost. -/
theorem Sound.lost_eq_nil {r : Run} {lost : List String} {result : RunResult} (h : Sound r lost)
    (concluded : r.result = .ok result) (right : Accounted r result) : lost = [] := by
  refine List.eq_nil_iff_forall_not_mem.2 fun id hid => ?_
  obtain ⟨status, output, hrecorded⟩ := h.booked.begun id hid
  have hstart : .start ∈ r.told id := by
    rw [hrecorded.1]
    exact List.mem_cons_self
  obtain ⟨s, hs, rfl⟩ := exists_started_iff.2 hstart
  have hcount := right.once s hs
  rw [steps_of_result concluded, (stepResults_steps_perm r).count_eq] at hcount
  refine (h.booked.gone _ hid).2 ?_
  rw [← List.count_pos_iff, hcount]
  exact Nat.one_pos

/-- The result of a run is right about its steps exactly if no report was lost. (A run of no steps
that lacks inputs fails although all of its steps succeeded.) -/
theorem accounted_iff {plan : Plan} {r : Run} (begins : Begins plan r) (acts : List Act)
    {result : RunResult} (returned : (r.performAll acts).returned? = some result) :
    Accounted (r.performAll acts) result ↔
      r.lost acts = [] ∧
        (plan.pipeline.steps ≠ [] ∨
          ∃ inputs, plan.pipeline.effectiveInputs plan.context = .ok (.ok inputs)) := by
  have hphase := result?_of_returned? returned
  cases begins.entry with
  | begun inputs accepted timed sound about fresh =>
    have hsound := sound.performAll acts
    have hhalted := sound.halted_performAll (by rw [fresh]; simp) acts
    rw [List.nil_append] at hsound
    cases hsound.standing with
    | runs phase quiet => rw [phase] at hphase; cases hphase
    | raises trouble time phase rest concluded complete quiet => rw [phase] at hphase; cases hphase
    | ends other phase rest concluded complete told =>
      rw [phase] at hphase
      cases hphase
      constructor
      · intro hright
        exact ⟨hsound.lost_eq_nil concluded hright, .inr ⟨inputs, accepted⟩⟩
      · rintro ⟨hlost, -⟩
        rw [hlost] at hsound
        exact hsound.accounted hhalted rest concluded
  | refused failure rejected rests reported =>
    obtain ⟨hrests, hlost, hresult, -⟩ := rests.performAll acts
    rw [hresult, reported] at hphase
    cases hphase
    have hquiet : ∀ s, RunEvent.started s ∉ (r.performAll acts).events := by
      intro s hs
      rw [hrests.events] at hs
      cases List.mem_singleton.1 hs
    constructor
    · intro hright
      refine ⟨hlost, .inl fun hnil => ?_⟩
      -- all of no steps succeeded, so the result would have to be a success
      have hcompleted : (refusal failure).state = .completed := by
        rw [hright.completed, hrests.plan, hnil]
        simp
      cases hcompleted
    · rintro ⟨-, hsteps | ⟨inputs, accepted⟩⟩
      · refine
          { once := fun s hs => absurd hs (hquiet s), only := ?_, outputs := ?_, completed := ?_ }
        · intro x hx
          cases hx
        · intro id
          rw [hrests.outputs]
          simp [Outputs.has, Outputs.get?, refusal]
        · obtain ⟨s, hs⟩ := List.exists_mem_of_ne_nil plan.pipeline.steps hsteps
          refine ⟨(fun hstate => by cases hstate), fun hall => ?_⟩
          rw [hrests.plan] at hall
          obtain ⟨x, hx, -⟩ := hall s hs
          cases hx
      · rw [rejected] at accepted
        cases accepted
  | raised fault faulty rests ended =>
    obtain ⟨time, hover⟩ := ended
    obtain ⟨-, -, -, hkept⟩ := rests.performAll acts
    rw [hkept _ _ hover] at hphase
    cases hphase

/-! ## A report that is lost -/

/-- A workflow of one remote action. -/
def oneAction : Definition where
  id := "w"
  name := "W"
  steps := [{ id := "a", kind := .remoteTool, toolkit := some "t", action := some "A" }]

/-- The pipeline of that workflow, with a connector that may be interrupted and a listener that
takes its time over every event. -/
def oneActionPlan : Plan where
  executor :=
    { registry := .ofConnectors {}
        [{ Connector.pure "echo" .remoteTool fun _ v _ => .ok v with cancellable := true }]
      concurrency_pos := Nat.one_pos }
  pipeline := ((oneAction.compile none).toOption).getD default
  context := {}
  id := "r"
  origin := default
  delivery := Wait.time 20

/-- The step succeeds, and while the listener takes its time over that the run is cancelled. -/
def lateCancel : List Act :=
  [.turn, .pass 20, .wake, .turn, .turn, .turn, .cancel, .round, .pass 40, .wake, .turn]

/-- The run at its entry. -/
def oneActionRun : Run := enter oneActionPlan 0 {} none false

theorem oneActionRun_begins : Begins oneActionPlan oneActionRun :=
  ⟨⟨oneAction, none, rfl⟩, 0, {}, none, false, rfl⟩

theorem accounted_iff_lateCancel :
    ∃ result, (oneActionRun.performAll lateCancel).returned? = some result ∧
      (Accounted (oneActionRun.performAll lateCancel) result ↔
        oneActionRun.lost lateCancel = [] ∧
          (oneActionPlan.pipeline.steps ≠ [] ∨ ∃ inputs,
            oneActionPlan.pipeline.effectiveInputs oneActionPlan.context = .ok (.ok inputs))) := by
  have hreturned : (oneActionRun.performAll lateCancel).returned? =
      some { success := true, state := .completed, output := .object [] } := by
    decide +kernel
  exact ⟨_, hreturned, accounted_iff oneActionRun_begins lateCancel hreturned⟩

/-- The run is completed, but its result does not list the step that succeeded. -/
theorem lateCancel_not_accounted :
    ∃ result, (oneActionRun.performAll lateCancel).returned? = some result ∧
      result.state = .completed ∧ result.steps = [] ∧
      ¬Accounted (oneActionRun.performAll lateCancel) result := by
  have hreturned : (oneActionRun.performAll lateCancel).returned? =
      some { success := true, state := .completed, output := .object [] } := by
    decide +kernel
  refine ⟨_, hreturned, rfl, rfl, fun hright => ?_⟩
  have hhas : (oneActionRun.performAll lateCancel).outputs.has "a" = true := by decide +kernel
  obtain ⟨x, hx, -⟩ := (hright.outputs "a").1 hhas
  cases hx

end Run

end Conduit

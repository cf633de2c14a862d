import Conduit.Proofs.Run.Progress
import Conduit.Proofs.Run.Results

/-!
# Ends that are told

Every run comes to its end. It returns a result, which is told once and last, unless its inputs
cannot be checked, its time limit is none, or nothing failed and the output of the pipeline cannot
be built: then it raises trouble, and its end is not told. Nor does it return if its listener gives
up over its end.

* `Run.EndsTold`, `Run.EndsRaised` — the two ways in which a run ends;
* `Run.OutputBuilt` — the output of a run that has one can be built;
* `Run.ends_told_iff` — when the end of a run is told.
-/

namespace Conduit.Run

/-- A run returned a result, and telling it was the last of its events and the only end told. -/
def EndsTold (r : Run) : Prop :=
  ∃ result, r.returned? = some result ∧
    ∃ es, r.events = es ++ [.done result] ∧ ∀ e ∈ es, e.isDone = false

/-- A run did not return. It raised trouble, and its end was not told; or telling its end was the
last of its events, and the listener gave up over that. -/
def EndsRaised (r : Run) : Prop :=
  ((∃ trouble time, r.phase = .over (.raised trouble) time) ∧ ∀ e ∈ r.events, e.isDone = false) ∨
    ∃ result time, r.phase = .over (.forsaken result) time ∧
      ∃ es, r.events = es ++ [.done result] ∧ ∀ e ∈ es, e.isDone = false

/-- The output of the pipeline can be built, if nothing failed and all steps have outputs. -/
def OutputBuilt (r : Run) : Prop :=
  r.failure = none → r.plan.pipeline.steps.length ≤ r.outputs.size →
    ∃ output, r.plan.pipeline.buildOutput (r.outputs.read r.environment) r.inputs = .ok output

/-- The listener of a run does not give up over its end. -/
def HeardOut (r : Run) : Prop :=
  ∀ result, .done result ∈ r.events → r.plan.delivery.givesUpEnd result = false

/-- A run can return a result: its inputs can be checked, its time limit is one, its output can be
built, and its listener hears it out. -/
def Concludes (plan : Plan) (r : Run) : Prop :=
  (∀ fault, plan.pipeline.effectiveInputs plan.context ≠ .error fault) ∧
    (∀ inputs, plan.pipeline.effectiveInputs plan.context = .ok (.ok inputs) →
      plan.executor.limit?.bind TimeLimit.sumFault? = none ∧ r.OutputBuilt) ∧
    r.HeardOut

theorem EndsRaised.not_returned {r : Run} (h : EndsRaised r) {result : RunResult} :
    r.returned? ≠ some result := by
  intro hreturned
  unfold returned? at hreturned
  obtain ⟨⟨trouble, time, hphase⟩, -⟩ | ⟨other, time, hphase, -⟩ := h
  · rw [hphase] at hreturned
    cases hreturned
  · rw [hphase] at hreturned
    cases hreturned

theorem EndsRaised.not_endsTold {r : Run} (h : EndsRaised r) : ¬EndsTold r := by
  rintro ⟨result, hreturned, -⟩
  exact h.not_returned hreturned

/-- A run that told its end last is heard out exactly if its listener does not give up over that. -/
theorem heardOut_iff {r : Run} {es : List RunEvent} {result : RunResult}
    (told : r.events = es ++ [.done result]) (quiet : ∀ e ∈ es, e.isDone = false) :
    r.HeardOut ↔ r.plan.delivery.givesUpEnd result = false := by
  constructor
  · intro hheard
    refine hheard result ?_
    rw [told]
    exact List.mem_append_right _ List.mem_cons_self
  · intro hkept other hother
    rw [told] at hother
    rcases List.mem_append.1 hother with hin | hlast
    · cases quiet _ hin
    · cases List.mem_singleton.1 hlast
      exact hkept

/-- A run has a result exactly if its output can be built. -/
theorem outputBuilt_iff (r : Run) : r.OutputBuilt ↔ ∃ result, r.result = .ok result := by
  unfold OutputBuilt result
  cases r.failure with
  | some failure => simp
  | none =>
    dsimp only
    by_cases hsize : r.outputs.size < r.plan.pipeline.steps.length
    · rw [if_pos hsize]
      refine ⟨fun _ => ⟨_, rfl⟩, fun _ _ hle => ?_⟩
      omega
    · rw [if_neg hsize]
      cases r.plan.pipeline.buildOutput (r.outputs.read r.environment) r.inputs with
      | ok output => exact ⟨fun _ => ⟨_, rfl⟩, fun _ _ _ => ⟨output, rfl⟩⟩
      | error fault =>
        constructor
        · intro hbuilt
          obtain ⟨output, houtput⟩ := hbuilt rfl (Nat.le_of_not_lt hsize)
          cases houtput
        · rintro ⟨result, hresult⟩
          cases hresult

/-- A run that is over and told its end has returned if its listener heard it out. -/
theorem ends_told_or_forsaken {r : Run} (ended : r.isOver = true)
    (accords : r.phase.Accords r.plan.delivery) {result : RunResult}
    (reported : r.phase.result? = some result) {es : List RunEvent}
    (told : r.events = es ++ [.done result]) (quiet : ∀ e ∈ es, e.isDone = false) :
    (r.EndsTold ∧ r.HeardOut) ∨ (r.EndsRaised ∧ ¬r.HeardOut) := by
  rw [heardOut_iff told quiet]
  cases hgives : r.plan.delivery.givesUpEnd result with
  | false =>
    have hreturned := (returned?_iff_of_isOver ended accords).2 ⟨reported, hgives⟩
    exact .inl ⟨⟨result, hreturned, es, told, quiet⟩, rfl⟩
  | true =>
    obtain ⟨time, hphase⟩ := forsaken_of_isOver ended accords reported hgives
    exact .inr ⟨.inr ⟨result, time, hphase, es, told, quiet⟩, by simp⟩

/-- A run that was begun and is over has told its end if its output can be built and its listener
heard it out, and has not returned if not. -/
theorem Standing.ends_told_or_raised {r : Run} (h : Standing r) (ended : r.isOver = true) :
    (r.EndsTold ∧ r.OutputBuilt ∧ r.HeardOut) ∨
      (r.EndsRaised ∧ ¬(r.OutputBuilt ∧ r.HeardOut)) := by
  rw [outputBuilt_iff]
  cases h with
  | runs phase quiet =>
    unfold isOver at ended
    rw [phase] at ended
    cases ended
  | ends result phase rest concluded complete told accords =>
    obtain ⟨es, hevents, hquiet⟩ := told
    rcases ends_told_or_forsaken ended accords phase hevents hquiet with ⟨htold, hheard⟩ |
      ⟨hraised, hnot⟩
    · exact .inl ⟨htold, ⟨result, concluded⟩, hheard⟩
    · exact .inr ⟨hraised, fun hboth => hnot hboth.2⟩
  | raises trouble time phase rest concluded complete quiet =>
    refine .inr ⟨.inl ⟨⟨trouble, time, phase⟩, quiet⟩, ?_⟩
    rintro ⟨⟨result, hresult⟩, -⟩
    rw [concluded] at hresult
    cases hresult

/-- A run that is over has told its end, or has not returned because it could not. -/
theorem Begins.ends_told_or_raised {plan : Plan} {r : Run} (begins : Begins plan r)
    (acts : List Act) (ended : (r.performAll acts).isOver = true) :
    ((r.performAll acts).EndsTold ∧ Concludes plan (r.performAll acts)) ∨
      ((r.performAll acts).EndsRaised ∧ ¬Concludes plan (r.performAll acts)) := by
  cases begins.entry with
  | begun inputs accepted timed sound about fresh =>
    -- the first two conditions hold of a run that was begun
    have hconcludes : Concludes plan (r.performAll acts) ↔
        (r.performAll acts).OutputBuilt ∧ (r.performAll acts).HeardOut := by
      constructor
      · rintro ⟨-, hbuilt, hheard⟩
        exact ⟨(hbuilt inputs accepted).2, hheard⟩
      · rintro ⟨hbuilt, hheard⟩
        refine ⟨fun fault hfault => ?_, fun _ _ => ⟨timed, hbuilt⟩, hheard⟩
        rw [accepted] at hfault
        cases hfault
    rw [hconcludes]
    exact (sound.performAll acts).standing.ends_told_or_raised ended
  | refused failure rejected rests reported =>
    obtain ⟨hrests, -, hresult, -⟩ := rests.performAll acts
    have hconcludes : Concludes plan (r.performAll acts) ↔ (r.performAll acts).HeardOut := by
      refine ⟨fun h => h.2.2, fun hheard => ⟨fun fault hfault => ?_, ?_, hheard⟩⟩
      · rw [rejected] at hfault
        cases hfault
      · intro inputs accepted
        rw [rejected] at accepted
        cases accepted
    rw [hconcludes]
    have htold : (r.performAll acts).events = [] ++ [.done (refusal failure)] := hrests.events
    exact ends_told_or_forsaken ended hrests.accords (hresult.trans reported) htold
      (List.forall_mem_nil _)
  | raised fault faulty rests raised =>
    obtain ⟨time, hraised⟩ := raised
    obtain ⟨hrests, -, -, hkept⟩ := rests.performAll acts
    refine .inr ⟨.inl ⟨⟨_, _, hkept _ _ hraised⟩, ?_⟩, ?_⟩
    · rw [hrests.events]
      simp
    · rintro ⟨hchecked, hbuilt, -⟩
      rcases faulty with hfault | ⟨⟨inputs, accepted⟩, hlimit⟩
      · exact hchecked fault hfault
      · rw [(hbuilt inputs accepted).1] at hlimit
        cases hlimit

/-- Every run comes to its end when it goes on until all is done. It returns a result that is told
once and last exactly if its inputs can be checked, its time limit is one, its output can be built
and its listener does not give up over its end; otherwise it raises trouble and its end is not told,
or is told to a listener who gives up over it. -/
theorem ends_told_iff {plan : Plan} {r : Run} (begins : Begins plan r) (acts : List Act) :
    (r.performAll acts).finish.isOver = true ∧
      ((r.performAll acts).finish.EndsTold ↔ Concludes plan (r.performAll acts).finish) ∧
      ((r.performAll acts).finish.EndsRaised ↔ ¬Concludes plan (r.performAll acts).finish) := by
  obtain ⟨more, hmore, hover⟩ := begins.finish_eq acts
  rw [hmore]
  refine ⟨hover, ?_⟩
  rcases begins.ends_told_or_raised more hover with ⟨htold, hconcludes⟩ | ⟨hraised, hnot⟩
  · exact ⟨⟨fun _ => hconcludes, fun _ => htold⟩,
      fun hraised => absurd htold hraised.not_endsTold, fun hnot => absurd hconcludes hnot⟩
  · exact ⟨⟨fun htold => absurd htold hraised.not_endsTold,
      fun hconcludes => absurd hconcludes hnot⟩, fun _ => hnot, fun _ => hraised⟩

/-! ## An output that cannot be built -/

/-- A workflow whose step gives a word, which is to be a number in the output. -/
def misfit : Definition where
  id := "w"
  name := "W"
  steps := [{ id := "a", kind := .controlFlow }]
  mappings :=
    [{ source := .fixed, target := .step "a", targetPath := "x", value := .str "abc" },
     { source := .step "a", sourcePath := "x", target := .output, targetPath := "n",
       transform := some "number" }]

/-- The pipeline of that workflow, with a connector that gives its input back. -/
def misfitPlan : Plan where
  executor :=
    { registry := .ofConnectors {} [.pure "echo" .controlFlow fun _ v _ => .ok v]
      concurrency_pos := Nat.one_pos }
  pipeline := ((misfit.compile none).toOption).getD default
  context := {}
  id := "r"
  origin := default

/-- The run at its entry. -/
def misfitRun : Run := enter misfitPlan 0 {} none false

theorem misfitRun_begins : Begins misfitPlan misfitRun :=
  .of_isSome (by decide +kernel : (misfit.compile none).toOption.isSome = true) rfl 0 {} none false

theorem ends_told_iff_misfit :
    (misfitRun.performAll []).finish.isOver = true ∧
      ((misfitRun.performAll []).finish.EndsTold ↔
        Concludes misfitPlan (misfitRun.performAll []).finish) ∧
      ((misfitRun.performAll []).finish.EndsRaised ↔
        ¬Concludes misfitPlan (misfitRun.performAll []).finish) :=
  ends_told_iff misfitRun_begins []

/-- The step succeeds, but the run returns no result and tells no end. -/
theorem misfit_not_told :
    (misfitRun.performAll []).finish.isOver = true ∧
      (misfitRun.performAll []).finish.succeeded = ["a"] ∧
      (misfitRun.performAll []).finish.returned? = none ∧
      (∀ e ∈ (misfitRun.performAll []).finish.events, e.isDone = false) ∧
      ¬(misfitRun.performAll []).finish.EndsTold := by
  have hnone : (misfitRun.performAll []).finish.returned? = none := by decide +kernel
  refine ⟨by decide +kernel, by decide +kernel, hnone, by decide +kernel, ?_⟩
  rintro ⟨result, hreturned, -⟩
  rw [hnone] at hreturned
  cases hreturned

end Conduit.Run

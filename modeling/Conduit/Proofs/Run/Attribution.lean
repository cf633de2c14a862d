import Conduit.Proofs.Run.Invariant
import Conduit.Proofs.Run.Results

/-!
# Which failure a run reports

The result of a run that failed names a step and repeats a message. The step is the first in the
order of the pipeline that failed; the message is that of the failure that stopped the dispatcher,
or of the time limit once that has stopped the run. Both are about one step exactly if nothing comes
between them.

* `Run.blamed?`, `Run.HaltedBy` — the step whose failure stopped the dispatcher;
* `Run.Sound.blameless` — what fails after the time limit stopped a run fails because of it;
* `Run.Attributed`, `Run.attributed_iff` — when a result reports the failure that stopped it.
-/

namespace Conduit.Run

/-! ## Reports -/

/-- The first report of a failure, in the order in which steps were taken out of flight. -/
def firstFault? (r : Run) : Option Report := r.reports.find? fun x => x.status == .error

/-- The first report of a failure, in the order of the pipeline. -/
def firstInOrder? (r : Run) : Option Report :=
  (Report.sorted r.reports).find? fun x => x.status == .error

theorem firstFault?_eq_none_iff {r : Run} :
    r.firstFault? = none ↔ ∀ x ∈ r.reports, x.status ≠ .error := by
  unfold firstFault?
  rw [List.find?_eq_none]
  simp

theorem of_firstFault? {r : Run} {x : Report} (first : r.firstFault? = some x) :
    x ∈ r.reports ∧ x.status = .error :=
  ⟨List.mem_of_find?_eq_some first, by simpa using List.find?_some first⟩

theorem firstFault?_of_prefix {r r' : Run} {x : Report} (h : r.reports <+: r'.reports)
    (first : r.firstFault? = some x) : r'.firstFault? = some x := by
  obtain ⟨more, hmore⟩ := h
  unfold firstFault? at first ⊢
  rw [← hmore, List.find?_append, first]
  rfl

/-- Both orders have a first failure if there is one. -/
theorem firstInOrder?_isSome {r : Run} (h : ∃ x ∈ r.reports, x.status = .error) :
    ∃ x, r.firstInOrder? = some x ∧ x ∈ r.reports ∧ x.status = .error := by
  obtain ⟨x, hx, hstatus⟩ := h
  unfold firstInOrder?
  cases hfirst : (Report.sorted r.reports).find? fun x => x.status == .error with
  | none =>
    rw [List.find?_eq_none] at hfirst
    have hnot := hfirst x ((Report.sorted_perm r.reports).symm.subset hx)
    rw [hstatus] at hnot
    exact absurd rfl hnot
  | some y =>
    refine ⟨y, rfl, (Report.sorted_perm r.reports).subset (List.mem_of_find?_eq_some hfirst), ?_⟩
    simpa using List.find?_some hfirst

/-- Without a time limit, what stopped a run is the first failure that was reported. -/
theorem Judged.failure_of_firstFault? {r : Run} (h : Judged r) (unstopped : r.expired = none)
    {x : Report} (first : r.firstFault? = some x) : r.failure = x.failure := by
  rw [h.failure, unstopped]
  show r.reports.findSome? Report.fault? = x.failure
  unfold firstFault? at first
  -- no report before the first failure has anything against going on
  obtain ⟨hstatus, front, back, hreports, hfront⟩ := List.find?_eq_some_iff_append.1 first
  have hx : x.status = .error := by simpa using hstatus
  have hnone : front.findSome? Report.fault? = none := by
    rw [List.findSome?_eq_none_iff]
    intro y hy
    have hnot := hfront y hy
    exact if_neg fun herror => by rw [herror] at hnot; cases hnot
  obtain ⟨failure, hfailure⟩ :=
    (h.reports x (List.mem_of_find?_eq_some first)).exists_failure hx
  rw [hreports, List.findSome?_append, hnone, List.findSome?_cons]
  unfold Report.fault?
  rw [if_pos hx, hfailure]
  rfl

/-! ## The failure that stopped the dispatcher -/

/-- The first report of a failure of a run that no time limit has stopped. -/
def blamed? (r : Run) : Option Report := if r.expired.isNone then r.firstFault? else none

/-- The failure of a step stopped the dispatcher in a history: at some point it was the first to be
reported, and no time limit had stopped the run. -/
def HaltedBy (r : Run) (acts : List Act) (x : Report) : Prop :=
  ∃ front back, acts = front ++ back ∧ (r.performAll front).blamed? = some x

/-- Once a time limit has stopped a run, its failures are those that the limit made. -/
def Blameless (r : Run) : Prop :=
  ∀ limit, r.expired = some limit → ∀ x ∈ r.reports, x.status = .error → x.failure = some limit

/-- The failure that stopped the dispatcher stays the first that was reported. -/
theorem Sound.firstFault?_of_haltedBy {r : Run} {lost : List String} (h : Sound r lost)
    {acts : List Act} {x : Report} (halted : HaltedBy r acts x) :
    (r.performAll acts).firstFault? = some x := by
  obtain ⟨front, back, rfl, hblamed⟩ := halted
  rw [performAll_append]
  unfold blamed? at hblamed
  split at hblamed
  · exact firstFault?_of_prefix ((h.performAll front).onward back).reports hblamed
  · cases hblamed

/-- An act of a run in which nothing is to blame makes no failures but those of its time limit. -/
theorem Sound.blameless_perform {r : Run} {lost : List String} (h : Sound r lost) (a : Act)
    (halted : ∀ limit, r.expired = some limit → Halted r limit) (unblamed : r.blamed? = none)
    (blameless : Blameless r) : Blameless (r.perform a) := by
  by_cases hstops : a = .expire ∧ r.limitReached? ≠ none
  · obtain ⟨rfl, hreached⟩ := hstops
    obtain ⟨limit, hreached⟩ := Option.ne_none_iff_exists'.1 hreached
    have hkept : Keeps (r.stoppedBy limit) (r.expire limit) :=
      interruptAll_keeps (r.flights.map Flight.id) (r.stoppedBy limit)
    -- the limit stops the run before any step has failed
    have hnone : r.firstFault? = none := by
      unfold blamed? at unblamed
      rwa [(busy_of_limitReached? hreached).2.2.1] at unblamed
    intro failure _ x hx herror
    rw [perform_expire hreached, hkept.reports] at hx
    exact absurd herror (firstFault?_eq_none_iff.1 hnone x hx)
  -- once the limit has stopped the run, only steps that it interrupted are reported
  · have hboth := h.perform_induction
      (motive := fun q => (∀ limit, q.expired = some limit → Halted q limit) ∧ Blameless q)
      (a := a) (fun hexpire => by_contra fun hreached => hstops ⟨hexpire, hreached⟩)
      ⟨halted, blameless⟩ ?_
    · exact hboth.2
    · intro q q' gone more hsound ⟨hhalted, hblameless⟩ change
      have hexpired := change.keeps.2.2
      refine ⟨fun limit hlimit => ?_, fun limit hlimit x hx herror => ?_⟩
      · rw [hexpired] at hlimit
        exact ((hhalted limit hlimit).change hsound.placed hsound.judged change).halted
      · rw [hexpired] at hlimit
        obtain ⟨new, hreports, hnew⟩ :=
          ((hhalted limit hlimit).change hsound.placed hsound.judged change).reports
        rw [hreports] at hx
        rcases List.mem_append.1 hx with hx | hx
        · exact hblameless limit hlimit x hx herror
        · exact (hnew x hx).2

/-- If no failure of a step stopped the dispatcher, all failures are those of the time limit. -/
theorem Sound.blameless {r : Run} {lost : List String} (h : Sound r lost) {acts : List Act}
    (halted : ∀ limit, r.expired = some limit → Halted r limit) (blameless : Blameless r)
    (unblamed : ∀ x, ¬HaltedBy r acts x) : Blameless (r.performAll acts) := by
  induction acts generalizing r lost with
  | nil => exact blameless
  | cons a acts ih =>
    have hnone : r.blamed? = none := by
      by_contra hsome
      obtain ⟨x, hx⟩ := Option.ne_none_iff_exists'.1 hsome
      exact unblamed x ⟨[], a :: acts, rfl, hx⟩
    refine ih (h.perform a) (h.halted_perform a halted)
      (h.blameless_perform a halted hnone blameless) ?_
    rintro x ⟨front, back, rfl, hx⟩
    exact unblamed x ⟨a :: front, back, rfl, hx⟩

/-! ## Attribution -/

/-- What a run says of a step that failed with a message. -/
def headline (s : PipelineStep) (message : String) : String :=
  "Step \"" ++ s.step.displayName ++ "\" failed: " ++ message

/-- A result reports the failure of one of its steps, which is the step whose failure stopped the
dispatcher if one did. -/
def Attributed (p : Pipeline) (result : RunResult) (halting : Report → Prop) : Prop :=
  ∃ s ∈ p.steps, ∃ x ∈ result.steps, x.step = s.step.id ∧ x.status = .error ∧
    result.errorCode = x.errorCode ∧
    (∃ message, x.error = some message ∧ result.error = some (headline s message)) ∧
    ∀ h, halting h → x.step = h.id

/-- Headlines with one message differ in what people call the step. -/
theorem headline_eq_iff {s t : PipelineStep} {message : String} :
    headline s message = headline t message ↔ s.step.displayName = t.step.displayName := by
  unfold headline
  rw [String.append_left_inj, String.append_left_inj, String.append_right_inj]

/-- The result of a run that failed names the first step in order that failed, and repeats what
stopped the run. -/
theorem error_of_result {r : Run} {result : RunResult} (concluded : r.result = .ok result)
    {failure : Failure} (failed : r.failure = some failure) {x : Report}
    (first : r.firstInOrder? = some x) :
    result.errorCode = some failure.kind.code ∧
      result.error = some (headline x.item failure.message) := by
  rcases result_cases concluded with ⟨other, hother, rfl⟩ | ⟨hnone, -⟩ | ⟨hnone, -⟩
  · rw [failed] at hother
    cases hother
    refine ⟨rfl, ?_⟩
    show some (r.failureMessage failure) = _
    unfold failureMessage
    unfold firstInOrder? at first
    rw [first]
    rfl
  · rw [hnone] at failed
    cases failed
  · rw [hnone] at failed
    cases failed

/-- The step of a report, with its failure, is one that a result can report. -/
theorem Sound.attributed_of_report {r : Run} {lost : List String} {result : RunResult}
    {halting : Report → Prop} (h : Sound r lost) (concluded : r.result = .ok result) {x : Report}
    (reported : x ∈ r.reports) (error : x.status = .error) {failure : Failure}
    (why : x.failure = some failure) (code : result.errorCode = some failure.kind.code)
    (message : result.error = some (headline x.item failure.message))
    (halted : ∀ y, halting y → y = x) : Attributed r.plan.pipeline result halting := by
  refine ⟨x.item, h.placed.reported x reported, x.result r.plan.moment r.environment, ?_, rfl,
    error, ?_, ⟨failure.message, ?_, message⟩, ?_⟩
  · rw [steps_of_result concluded]
    exact mem_stepResults.2 ⟨x, reported, rfl⟩
  · rw [code]
    show some failure.kind.code = x.failure.map _
    rw [why]
    rfl
  · show x.failure.map _ = some failure.message
    rw [why]
    rfl
  · intro y hy
    rw [halted y hy]
    rfl

/-- A result that reports the failure of the step that stopped the dispatcher has its code and its
headline. -/
theorem Sound.of_attributed {r : Run} {lost : List String} {result : RunResult}
    {halting : Report → Prop} (h : Sound r lost) (concluded : r.result = .ok result) {x : Report}
    (reported : x ∈ r.reports) {failure : Failure} (why : x.failure = some failure)
    (halts : halting x) (attributed : Attributed r.plan.pipeline result halting) :
    result.errorCode = some failure.kind.code ∧
      result.error = some (headline x.item failure.message) := by
  obtain ⟨s, hs, y, hy, hstep, -, hcode, ⟨message, hmessage, herror⟩, hhalting⟩ := attributed
  rw [steps_of_result concluded] at hy
  obtain ⟨z, hz, rfl⟩ := mem_stepResults.1 hy
  have hid : z.id = x.id := hhalting x halts
  -- the report that the result names is that of the step that stopped the dispatcher
  have hzx : z = x := List.inj_on_of_nodup_map h.placed.reported_once hz reported hid
  subst hzx
  have hsz : s = z.item := h.formed.step_unique hs (h.placed.reported z hz) hstep.symm
  have hcode' : (z.result r.plan.moment r.environment).errorCode = some failure.kind.code := by
    show z.failure.map _ = _
    rw [why]
    rfl
  have hmessage' : (z.result r.plan.moment r.environment).error = some failure.message := by
    show z.failure.map _ = _
    rw [why]
    rfl
  rw [hmessage'] at hmessage
  cases hmessage
  exact ⟨hcode.trans hcode', hsz ▸ herror⟩

section

variable {r : Run} {lost : List String} {result : RunResult} {halting : Report → Prop}
  (h : Sound r lost) (concluded : r.result = .ok result) {first : Report}
  (inOrder : r.firstInOrder? = some first)

include h concluded inOrder

/-- When no step stopped the dispatcher, its time limit did, and the result reports a step that the
limit interrupted. -/
theorem Sound.attributed_of_blameless {limit : Failure} (expired : r.expired = some limit)
    (reported : first ∈ r.reports) (error : first.status = .error) (nobody : ∀ x, ¬halting x)
    (blameless : Blameless r) : Attributed r.plan.pipeline result halting := by
  have hwhy := blameless limit expired first reported error
  obtain ⟨hcode, hmessage⟩ :=
    error_of_result concluded (h.judged.failure_of_expired expired) inOrder
  exact h.attributed_of_report concluded reported error hwhy hcode hmessage
    fun y hy => absurd hy (nobody y)

/-- When a step stopped the dispatcher, the result reports it exactly if what it says of the first
step in order, with the failure of the run, is what it would say of this step. -/
theorem Sound.attributed_iff_alike {shown failure : Failure} (failed : r.failure = some shown)
    {x : Report} (reported : x ∈ r.reports) (error : x.status = .error)
    (why : x.failure = some failure) (halts : halting x) (only : ∀ y, halting y → y = x) :
    Attributed r.plan.pipeline result halting ↔
      shown.kind.code = failure.kind.code ∧
        headline first.item shown.message = headline x.item failure.message := by
  obtain ⟨hcode, hmessage⟩ := error_of_result concluded failed inOrder
  constructor
  · intro hattributed
    obtain ⟨hcode', hmessage'⟩ := h.of_attributed concluded reported why halts hattributed
    rw [hcode] at hcode'
    rw [hmessage] at hmessage'
    exact ⟨Option.some.inj hcode', Option.some.inj hmessage'⟩
  · rintro ⟨hcode', hmessage'⟩
    rw [hcode'] at hcode
    rw [hmessage'] at hmessage
    exact h.attributed_of_report concluded reported error why hcode hmessage only

end

/-- When the result of a run that has ended reports the failure that stopped the dispatcher. -/
theorem Sound.attribution {r : Run} {lost : List String} {result : RunResult}
    {halting : Report → Prop} (h : Sound r lost) (concluded : r.result = .ok result)
    (errors : ∃ x ∈ result.steps, x.status = .error)
    (first_of : ∀ x, halting x → r.firstFault? = some x)
    (of_first : r.expired = none → ∀ x, r.firstFault? = some x → halting x)
    (blameless : (∀ x, ¬halting x) → Blameless r) :
    ∃ first, r.firstInOrder? = some first ∧
      ((∀ x, ¬halting x) → Attributed r.plan.pipeline result halting) ∧
      ∀ x, halting x → ∃ failure, x.failure = some failure ∧
        match r.expired with
        | none =>
          Attributed r.plan.pipeline result halting ↔
            first.item.step.displayName = x.item.step.displayName
        | some limit =>
          Attributed r.plan.pipeline result halting ↔
            limit.kind.code = failure.kind.code ∧
              headline first.item limit.message = headline x.item failure.message := by
  have herror : ∃ x ∈ r.reports, x.status = .error := by
    obtain ⟨s, hs, hstatus⟩ := errors
    rw [steps_of_result concluded] at hs
    obtain ⟨x, hx, rfl⟩ := mem_stepResults.1 hs
    exact ⟨x, hx, hstatus⟩
  obtain ⟨first, hfirst, hreported, hstatus⟩ := firstInOrder?_isSome herror
  refine ⟨first, hfirst, fun hnobody => ?_, fun x hx => ?_⟩
  · cases hexpired : r.expired with
    | none =>
      obtain ⟨x, hx, hxerror⟩ := herror
      refine absurd hxerror (firstFault?_eq_none_iff.1 ?_ x hx)
      exact Option.eq_none_iff_forall_ne_some.2 fun y hy => hnobody y (of_first hexpired y hy)
    | some limit =>
      exact h.attributed_of_blameless concluded hfirst hexpired hreported hstatus hnobody
        (blameless hnobody)
  · have hfault := first_of x hx
    obtain ⟨hxreported, hxerror⟩ := of_firstFault? hfault
    have honly : ∀ y, halting y → y = x := fun y hy =>
      Option.some.inj ((first_of y hy).symm.trans hfault)
    obtain ⟨failure, hwhy⟩ := (h.judged.reports x hxreported).exists_failure hxerror
    refine ⟨failure, hwhy, ?_⟩
    cases hexpired : r.expired with
    | none =>
      have hfailure : r.failure = some failure :=
        (h.judged.failure_of_firstFault? hexpired hfault).trans hwhy
      exact (h.attributed_iff_alike concluded hfirst hfailure hxreported hxerror hwhy hx
        honly).trans ((and_iff_right rfl).trans headline_eq_iff)
    | some limit =>
      exact h.attributed_iff_alike concluded hfirst (h.judged.failure_of_expired hexpired)
        hxreported hxerror hwhy hx honly

/-- A result with a step that failed reports the failure that stopped the dispatcher exactly if
no step that people call otherwise failed before that step in the order of the pipeline and, where
the time limit stopped the run as well, the two failures look the same. When no step stopped the
dispatcher, it reports a step that the time limit interrupted. -/
theorem attributed_iff {plan : Plan} {r : Run} (begins : Begins plan r) (acts : List Act)
    {result : RunResult} (returned : (r.performAll acts).returned? = some result)
    (errors : ∃ x ∈ result.steps, x.status = .error) :
    ∃ first, (r.performAll acts).firstInOrder? = some first ∧
      ((∀ x, ¬r.HaltedBy acts x) → Attributed plan.pipeline result (r.HaltedBy acts)) ∧
      ∀ x, r.HaltedBy acts x → ∃ failure, x.failure = some failure ∧
        match (r.performAll acts).expired with
        | none =>
          Attributed plan.pipeline result (r.HaltedBy acts) ↔
            first.item.step.displayName = x.item.step.displayName
        | some limit =>
          Attributed plan.pipeline result (r.HaltedBy acts) ↔
            limit.kind.code = failure.kind.code ∧
              headline first.item limit.message = headline x.item failure.message := by
  have hphase := result?_of_returned? returned
  cases begins.entry with
  | raised fault faulty rests ended =>
    obtain ⟨time, hover⟩ := ended
    obtain ⟨-, -, -, hkept⟩ := rests.performAll acts
    rw [hkept _ _ hover] at hphase
    cases hphase
  | refused failure rejected rests reported =>
    obtain ⟨-, -, hresult, -⟩ := rests.performAll acts
    rw [hresult, reported] at hphase
    cases hphase
    obtain ⟨x, hx, -⟩ := errors
    cases hx
  | begun inputs accepted timed sound about fresh =>
    have hsound := sound.performAll acts
    obtain ⟨hplan, -⟩ := sound.about_performAll acts
    rw [about.1] at hplan
    cases hsound.standing with
    | runs phase quiet => rw [phase] at hphase; cases hphase
    | raises trouble time phase rest concluded complete quiet => rw [phase] at hphase; cases hphase
    | ends other phase rest concluded complete told =>
      rw [phase] at hphase
      cases hphase
      have hfirst : (r.performAll acts).expired = none → ∀ x,
          (r.performAll acts).firstFault? = some x → r.HaltedBy acts x := by
        intro hexpired x hx
        refine ⟨acts, [], (List.append_nil acts).symm, ?_⟩
        unfold blamed?
        rw [hexpired]
        exact hx
      have hblameless : (∀ x, ¬r.HaltedBy acts x) → Blameless (r.performAll acts) := by
        refine sound.blameless (by rw [fresh]; simp) ?_
        intro limit hlimit
        rw [fresh] at hlimit
        cases hlimit
      have hall := hsound.attribution concluded errors
        (fun x hx => sound.firstFault?_of_haltedBy hx) hfirst hblameless
      rw [hplan] at hall
      exact hall

/-! ## A failure that is reported under another name -/

/-- A connector whose steps fail after a while: the step `a` after 20 microseconds, all others after
10. -/
def failingConnector : Connector where
  name := "fail"
  kind := .controlFlow
  call := fun step _ _ environment =>
    (environment,
     { wait := .time (if step.id = "a" then 20 else 10)
       finish := fun environment =>
         (environment, .error (.failure (connectorFailure step.id (step.id ++ " fails")))) })

/-- A workflow of two steps that do not depend on each other. -/
def twoSteps : Definition where
  id := "w"
  name := "W"
  steps := [{ id := "a", kind := .controlFlow }, { id := "b", kind := .controlFlow }]

/-- The pipeline of that workflow, with both steps in flight at once. -/
def twoStepsPlan : Plan where
  executor :=
    { registry := .ofConnectors {} [failingConnector], concurrency := 2,
      concurrency_pos := Nat.two_pos }
  pipeline := ((twoSteps.compile none).toOption).getD default
  context := {}
  id := "r"
  origin := default

/-- The run at its entry. -/
def twoStepsRun : Run := enter twoStepsPlan 0 {} none false

theorem twoStepsRun_begins : Begins twoStepsPlan twoStepsRun :=
  ⟨⟨twoSteps, none, rfl⟩, 0, {}, none, false, rfl⟩

/-- The step `b` fails first, and `a` while it is seen to its end. -/
def failTwice : List Act :=
  [.turn, .turn, .turn, .turn, .turn, .turn, .pass 10, .wake, .turn, .turn, .round, .pass 20, .wake,
    .turn, .turn, .round, .turn]

/-- What that run returns. -/
def failTwiceResult : RunResult := ((twoStepsRun.performAll failTwice).returned?).getD default

theorem failTwice_returned :
    (twoStepsRun.performAll failTwice).returned? = some failTwiceResult := by
  decide +kernel

theorem attributed_iff_failTwice :
    (twoStepsRun.performAll failTwice).returned? = some failTwiceResult ∧
      (∃ x ∈ failTwiceResult.steps, x.status = .error) ∧
      ∃ first, (twoStepsRun.performAll failTwice).firstInOrder? = some first ∧
        ((∀ x, ¬twoStepsRun.HaltedBy failTwice x) →
          Attributed twoStepsPlan.pipeline failTwiceResult (twoStepsRun.HaltedBy failTwice)) ∧
        ∀ x, twoStepsRun.HaltedBy failTwice x → ∃ failure, x.failure = some failure ∧
          match (twoStepsRun.performAll failTwice).expired with
          | none =>
            Attributed twoStepsPlan.pipeline failTwiceResult (twoStepsRun.HaltedBy failTwice) ↔
              first.item.step.displayName = x.item.step.displayName
          | some limit =>
            Attributed twoStepsPlan.pipeline failTwiceResult (twoStepsRun.HaltedBy failTwice) ↔
              limit.kind.code = failure.kind.code ∧
                headline first.item limit.message = headline x.item failure.message := by
  have herrors : ∃ x ∈ failTwiceResult.steps, x.status = .error := by decide +kernel
  exact ⟨failTwice_returned, herrors,
    attributed_iff twoStepsRun_begins failTwice failTwice_returned herrors⟩

/-- The result names the step `a` and repeats what was wrong with `b`. -/
theorem failTwice_not_attributed :
    (twoStepsRun.performAll failTwice).returned? = some failTwiceResult ∧
      failTwiceResult.state = .failed ∧
      failTwiceResult.error = some "Step \"a\" failed: b fails" ∧
      ¬Attributed twoStepsPlan.pipeline failTwiceResult (twoStepsRun.HaltedBy failTwice) := by
  refine ⟨failTwice_returned, by decide +kernel, by decide +kernel, ?_⟩
  rintro ⟨s, hs, x, hx, hstep, -, -, ⟨message, hmessage, herror⟩, hhalting⟩
  -- the failure of `b` stopped the dispatcher
  have hblamed :
      ((twoStepsRun.performAll (failTwice.take 11)).blamed?).map Report.id = some "b" := by
    decide +kernel
  obtain ⟨y, hy, hid⟩ := Option.map_eq_some_iff.1 hblamed
  have hb : x.step = "b" := by
    rw [← hid]
    exact hhalting y ⟨failTwice.take 11, failTwice.drop 11, (List.take_append_drop 11 _).symm, hy⟩
  have hall : ∀ s ∈ twoStepsPlan.pipeline.steps, ∀ x ∈ failTwiceResult.steps, x.step = s.step.id →
      x.step = "b" → failTwiceResult.error ≠ x.error.map (headline s) := by
    decide +kernel
  refine hall s hs x hx hstep hb ?_
  rw [hmessage, herror]
  rfl

end Conduit.Run

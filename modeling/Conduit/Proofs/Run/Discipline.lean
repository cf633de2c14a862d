import Conduit.Proofs.Run.Completion
import Conduit.Proofs.Run.FailFast

/-!
# The discipline of the dispatcher

Never are more steps in flight than the executor allows, and each step that is put in flight is the
first, in the order of the pipeline, of those that were not put in flight before and that depend
only on steps that have succeeded. A step has succeeded when the dispatcher has its report; one
whose success was told before that is still in flight.

* `Run.Within`, `Run.Begins.within` — how many steps are in flight;
* `Run.dispatchesUpTo`, `Run.dispatched` — the steps that are put in flight, with the run as it is
  then;
* `Run.Chosen`, `Run.Poised.chosen` — what a step that is put in flight is among those that were
  not;
* `Run.InTurn`, `Run.inTurn_allDispatched` — steps are put in flight in their turn.
-/

namespace Conduit.Run

/-! ## How many steps are in flight -/

/-- A run of a plan has no more steps in flight than the executor allows. -/
structure Within (plan : Plan) (r : Run) : Prop where
  about : r.plan = plan
  bound : r.flights.length ≤ plan.executor.concurrency

theorem Within.of_flightIds {plan : Plan} {r r' : Run} (h : Within plan r)
    (about : r'.plan = r.plan) (same : r'.flightIds = r.flightIds) : Within plan r' := by
  refine ⟨about.trans h.about, ?_⟩
  rw [← length_flightIds, same, length_flightIds]
  exact h.bound

/-- Only the dispatcher puts steps in flight, and it does so where there is room. -/
theorem Within.change {plan : Plan} {r r' : Run} {lost : List String} (h : Within plan r)
    (change : Change r r' lost) : Within plan r' := by
  cases change with
  | stirs stir => exact h.of_flightIds stir.plan stir.toAlike.flightIds
  | moves flies move =>
    cases move <;> rename_i shift <;> exact h.of_flightIds shift.plan shift.flightIds
  | cuts called flies cut => exact h.of_flightIds cut.keeps.plan cut.keeps.flightIds
  | heeds running asked => exact { h with }
  | collects running =>
    rw [collect_eq]
    exact ⟨h.about, Nat.le_trans (List.length_filter_le _ _) h.bound⟩
  | launches running may first =>
    have hroom := (mayDispatch_iff.1 may).2.2
    refine ⟨h.about, ?_⟩
    show (r.flights ++ [_]).length ≤ _
    rw [List.length_append, ← h.about]
    exact hroom
  | concludes running idle stuck =>
    exact h.of_flightIds (conclude_alike r).plan (conclude_alike r).flightIds
  | closes phase => exact { h with }

theorem Within.performAll {plan : Plan} {r : Run} (h : Within plan r) (placed : Placed r)
    (acts : List Act) : Within plan (r.performAll acts) := by
  have hall := performAll_induction (motive := fun q => Placed q ∧ Within plan q) acts ⟨placed, h⟩
    fun q a hq => ⟨hq.1.perform a, ?_⟩
  · exact hall.2
  · exact perform_induction (motive := fun q _ => Within plan q) [] a hq.1.flies_once hq.2
      (fun _ _ _ _ hp change => hp.change change) fun _ _ _ => { hq.2 with }

theorem Within.abandon {plan : Plan} {r : Run} (h : Within plan r) : Within plan r.abandon := by
  unfold Run.abandon
  split
  · exact h
  · have hinterrupted := interruptAll_keeps (r.flights.map Flight.id) r
    have hclosed : Within plan ((r.interruptAll (r.flights.map Flight.id)).close .abandoned) :=
      h.of_flightIds hinterrupted.plan hinterrupted.flightIds
    obtain ⟨_, hdrain⟩ := drain_changes ((r.interruptAll (r.flights.map Flight.id)).close .abandoned)
    exact hdrain.induction (motive := fun q _ => Within plan q) [] hclosed
      fun _ _ _ _ hq change => hq.change change
  · exact { h with }

/-- A run is within the bound of its executor in all of its history. -/
theorem Begins.within {plan : Plan} {r : Run} (begins : Begins plan r) (acts : List Act) :
    Within plan (r.performAll acts) := by
  refine begins.invariant (motive := fun q _ => Within plan q) ?_ ?_ ?_ ?_ acts
  · exact fun _ _ _ _ _ => ⟨rfl, Nat.zero_le _⟩
  · intro q told hrests _
    refine ⟨hrests.plan, ?_⟩
    rw [hrests.flights]
    exact Nat.zero_le _
  · exact fun q q' gone more _ h change => h.change change
  · exact fun q gone limit _ _ h => { h with }

/-! ## What is put in flight -/

/-- The steps that `dispatchUpTo` puts in flight, each with the run from which it is. -/
def dispatchesUpTo : Nat → Run → List (Run × PipelineStep)
  | 0, _ => []
  | fuel + 1, r =>
    if r.mayDispatch then
      match r.waiting.find? r.isReady with
      | none => []
      | some s => (r, s) :: dispatchesUpTo fuel (r.launch s)
    else []

/-- The steps that an act puts in flight. -/
def dispatches (r : Run) : Act → List (Run × PipelineStep)
  | .round =>
    if r.dispatcherActs && r.expired.isNone then
      dispatchesUpTo r.heed.collect.waiting.length r.heed.collect
    else []
  | _ => []

/-- The steps that are put in flight in a history. -/
def dispatched (r : Run) : List Act → List (Run × PipelineStep)
  | [] => []
  | a :: acts => r.dispatches a ++ (r.perform a).dispatched acts

/-- The ids of steps that are put in flight. -/
def idsOf (put : List (Run × PipelineStep)) : List String := put.map fun d => d.2.step.id

theorem idsOf_append (put more : List (Run × PipelineStep)) :
    idsOf (put ++ more) = idsOf put ++ idsOf more := List.map_append

/-- The dispatcher stops, or it puts the first step in flight that may go and goes on. -/
theorem dispatchesUpTo_cases (fuel : Nat) (r : Run) :
    dispatchesUpTo (fuel + 1) r = [] ∨
      ∃ s, r.mayDispatch = true ∧ r.waiting.find? r.isReady = some s ∧
        dispatchesUpTo (fuel + 1) r = (r, s) :: dispatchesUpTo fuel (r.launch s) := by
  rw [dispatchesUpTo]
  by_cases hmay : r.mayDispatch = true
  · rw [if_pos hmay]
    cases hfirst : r.waiting.find? r.isReady with
    | none => exact .inl rfl
    | some s => exact .inr ⟨s, hmay, rfl, rfl⟩
  · exact .inl (if_neg hmay)

theorem idsOf_dispatchesUpTo (fuel : Nat) (r : Run) :
    idsOf (dispatchesUpTo fuel r) = launchesUpTo fuel r := by
  induction fuel generalizing r with
  | zero => rfl
  | succ fuel ih =>
    rw [dispatchesUpTo, launchesUpTo]
    split
    · cases r.waiting.find? r.isReady with
      | none => rfl
      | some s => exact congrArg (s.step.id :: ·) (ih (r.launch s))
    · rfl

theorem idsOf_dispatches (r : Run) (a : Act) : idsOf (r.dispatches a) = r.launches a := by
  cases a with
  | round =>
    show idsOf (if r.dispatcherActs && r.expired.isNone then _ else []) =
      if r.dispatcherActs && r.expired.isNone then _ else []
    split
    · exact idsOf_dispatchesUpTo _ _
    · rfl
  | _ => rfl

theorem idsOf_dispatched (r : Run) (acts : List Act) :
    idsOf (r.dispatched acts) = r.launched acts := by
  induction acts generalizing r with
  | nil => rfl
  | cons a acts ih => rw [dispatched, launched, idsOf_append, idsOf_dispatches, ih]

/-! ## The step that is chosen -/

/-- The dispatcher has the report of a step, and it is one of success. -/
def HasSucceeded (r : Run) (id : String) : Prop := ∃ x ∈ r.reports, x.id = id ∧ x.status = .success

/-- A run `q` of a plan puts the step `s` in flight after those of the ids `earlier`. -/
structure Chosen (plan : Plan) (earlier : List String) (q : Run) (s : PipelineStep) : Prop where
  about : q.plan = plan
  /-- There is room for another step. -/
  room : q.flights.length < plan.executor.concurrency
  /-- The step was not put in flight before. -/
  fresh : s ∈ plan.pipeline.steps ∧ s.step.id ∉ earlier
  /-- All that it depends on has succeeded. -/
  ready : ∀ id ∈ s.dependsOn, q.HasSucceeded id
  /-- Of each step before it that was not put in flight, something that it depends on has not. -/
  first : ∀ front back, plan.pipeline.steps = front ++ s :: back → ∀ t ∈ front,
    t.step.id ∉ earlier → ∃ id ∈ t.dependsOn, ¬q.HasSucceeded id
  /-- A step whose success was told has succeeded, unless the listener takes its time over that or
  gives up the step. -/
  told : ∀ id, .stop .success ∈ q.told id →
    q.HasSucceeded id ∨ (∃ f ∈ q.flights, f.id = id ∧ f.stage.isClosing = true) ∨ plan.Forsakes id

/-- A step is ready when all that it depends on has succeeded. -/
theorem Judged.isReady_iff {r : Run} (h : Judged r) {s : PipelineStep} :
    r.isReady s = true ↔ ∀ id ∈ s.dependsOn, r.HasSucceeded id := by
  unfold isReady
  rw [List.all_eq_true]
  refine forall₂_congr fun id _ => ?_
  rw [decide_eq_true_iff, h.succeeded, List.mem_map]
  refine exists_congr fun x => ?_
  rw [List.mem_filter, beq_iff_eq, and_assoc, and_comm (a := x.status = .success)]

/-- What stands before an item of a list without repetition does not come after it in a sublist. -/
theorem not_mem_of_sublist {α : Type} {front back left right : List α} {a b : α}
    (once : (front ++ a :: back).Nodup) (sub : (left ++ a :: right).Sublist (front ++ a :: back))
    (hb : b ∈ front) : b ∉ right := by
  intro hright
  obtain ⟨-, -, hapart⟩ := List.nodup_append'.1 once
  have hpair : [a, b].Sublist (front ++ a :: back) := by
    have hcons : [a, b].Sublist (a :: right) := (List.singleton_sublist.2 hright).cons_cons a
    exact (hcons.trans (List.sublist_append_right left _)).trans sub
  -- what is taken from `front` does not begin with `a`, so it is nothing
  obtain ⟨taken, rest, hsplit, htaken, hrest⟩ := List.sublist_append_iff.1 hpair
  cases taken with
  | nil =>
    obtain rfl : [a, b] = rest := hsplit
    have hmem := List.singleton_sublist.1 (List.cons_sublist_cons.1 hrest)
    exact hapart hb (List.mem_cons_of_mem a hmem)
  | cons x taken =>
    obtain ⟨rfl, -⟩ := List.cons.inj hsplit
    exact hapart (htaken.subset List.mem_cons_self) List.mem_cons_self

/-- Those that wait stand in the order of the pipeline, so one that stands before the first of them
that is ready is not ready. -/
theorem Placed.isReady_eq_false {r : Run} {s t : PipelineStep} {front back : List PipelineStep}
    (h : Placed r) (formed : r.plan.pipeline.WellFormed)
    (first : r.waiting.find? r.isReady = some s)
    (steps : r.plan.pipeline.steps = front ++ s :: back) (ht : t ∈ front) (waits : t ∈ r.waiting) :
    r.isReady t = false := by
  obtain ⟨-, left, right, hwaiting, hleft⟩ := List.find?_eq_some_iff_append.1 first
  have hsub := h.waiting
  have honce := formed.stepIds_nodup.of_map
  rw [hwaiting, steps] at hsub
  rw [steps] at honce
  have hne : t ≠ s := by
    rintro rfl
    exact (List.nodup_append'.1 honce).2.2 ht List.mem_cons_self
  rw [hwaiting, List.mem_append, List.mem_cons] at waits
  have hpassed : t ∈ left :=
    waits.resolve_right fun later => later.elim hne (not_mem_of_sublist honce hsub ht)
  simpa using hleft t hpassed

/-- The success of a step that was told was reported, unless the listener takes its time over it or
the report was lost. -/
theorem Booked.hasSucceeded_or_isClosing {r : Run} {lost : List String} (h : Booked r lost)
    (busy : ∀ f ∈ r.flights, f.stage.isEnded = false) {id : String}
    (told : .stop .success ∈ r.told id) :
    r.HasSucceeded id ∨ (∃ f ∈ r.flights, f.id = id ∧ f.stage.isClosing = true) ∨ id ∈ lost := by
  rcases h.exists_report_of_stop told with hreported | ⟨f, hf, hid, x, hreport, -⟩ | hlost
  · exact .inl hreported
  · refine .inr (.inl ⟨f, hf, hid, ?_⟩)
    have hbusy := busy f hf
    cases hstage : f.stage with
    | closing y givenUp => rfl
    | ended y =>
      rw [hstage] at hbusy
      cases hbusy
    | _ =>
      rw [hstage] at hreport
      cases hreport
  · exact .inr (.inr hlost)

/-- A run of a plan in which the dispatcher is at work, after it put the steps of the ids `earlier`
in flight. -/
structure Poised (plan : Plan) (earlier lost : List String) (q : Run) : Prop where
  sound : Sound q lost
  forsaken : ∀ id ∈ lost, plan.Forsakes id
  about : q.plan = plan
  running : q.phase = .running
  busy : ∀ f ∈ q.flights, f.stage.isEnded = false
  steps : plan.pipeline.stepIds.Perm (earlier ++ q.waitingIds)

/-- The dispatcher chooses the first step that waits and is ready. -/
theorem Poised.chosen {plan : Plan} {earlier lost : List String} {q : Run} {s : PipelineStep}
    (h : Poised plan earlier lost q) (may : q.mayDispatch = true)
    (first : q.waiting.find? q.isReady = some s) : Chosen plan earlier q s := by
  obtain ⟨sound, forsaken, rfl, running, busy, steps⟩ := h
  have hmem : s ∈ q.waiting := List.mem_of_find?_eq_some first
  have hapart := (List.nodup_append'.1 (steps.nodup_iff.1 sound.formed.stepIds_nodup)).2.2
  refine
    { about := rfl, room := (mayDispatch_iff.1 may).2.2,
      fresh := ⟨sound.placed.waiting.subset hmem, fun hearlier => ?_⟩,
      ready := sound.judged.isReady_iff.1 (List.find?_some first), first := ?_,
      told := fun id htold => (sound.booked.hasSucceeded_or_isClosing busy htold).imp_right
        (Or.imp_right (forsaken id)) }
  · exact hapart hearlier (List.mem_map_of_mem hmem)
  · intro front back hsteps t ht hnew
    have htsteps : t ∈ q.plan.pipeline.steps := by
      rw [hsteps]
      exact List.mem_append_left _ ht
    -- a step that was not put in flight waits
    obtain ⟨u, hu, hid⟩ := List.mem_map.1
      ((List.mem_append.1 (steps.subset (List.mem_map_of_mem htsteps))).resolve_left hnew)
    obtain rfl := sound.formed.step_unique (sound.placed.waiting.subset hu) htsteps hid
    have hunready := sound.placed.isReady_eq_false sound.formed first hsteps ht hu
    rw [← Bool.not_eq_true, sound.judged.isReady_iff] at hunready
    push Not at hunready
    exact hunready

/-- A step that was chosen is put in flight, and the dispatcher goes on. -/
theorem Poised.launch {plan : Plan} {earlier lost : List String} {q : Run} {s : PipelineStep}
    (h : Poised plan earlier lost q) (may : q.mayDispatch = true)
    (first : q.waiting.find? q.isReady = some s) :
    Poised plan (earlier ++ [s.step.id]) lost (q.launch s) where
  sound := by simpa using h.sound.change (.launches h.running may first)
  forsaken := h.forsaken
  about := h.about
  running := h.running
  busy f hf := by
    rcases List.mem_append.1 hf with hf | hf
    · exact h.busy f hf
    · rw [List.mem_singleton.1 hf]
      rfl
  steps := by
    have hlaunch := waitingIds_perm_launch h.sound.placed.waits_once
      (List.mem_of_find?_eq_some first)
    rw [List.append_assoc, List.singleton_append]
    exact h.steps.trans (hlaunch.append_left earlier)

/-! ## Steps in their turn -/

/-- Each of some steps that are put in flight is chosen, after those of the ids `earlier` and those
that stand before it. -/
inductive InTurn (plan : Plan) : List String → List (Run × PipelineStep) → Prop
  | nil {earlier : List String} : InTurn plan earlier []
  | cons {earlier : List String} {q : Run} {s : PipelineStep} {rest : List (Run × PipelineStep)}
      (chosen : Chosen plan earlier q s)
      (rest_in_turn : InTurn plan (earlier ++ [s.step.id]) rest) :
      InTurn plan earlier ((q, s) :: rest)

theorem InTurn.append {plan : Plan} {earlier : List String} {put more : List (Run × PipelineStep)}
    (h : InTurn plan earlier put) (h' : InTurn plan (earlier ++ idsOf put) more) :
    InTurn plan earlier (put ++ more) := by
  induction h with
  | nil =>
    rw [idsOf, List.map_nil, List.append_nil] at h'
    exact h'
  | cons chosen rest_in_turn ih =>
    refine .cons chosen (ih ?_)
    rw [List.append_assoc]
    exact h'

theorem Poised.inTurn (fuel : Nat) {plan : Plan} {earlier lost : List String} {q : Run}
    (h : Poised plan earlier lost q) : InTurn plan earlier (dispatchesUpTo fuel q) := by
  induction fuel generalizing q earlier with
  | zero => exact .nil
  | succ fuel ih =>
    rcases dispatchesUpTo_cases fuel q with hnone | ⟨s, hmay, hfirst, hput⟩
    · rw [hnone]
      exact .nil
    · rw [hput]
      exact .cons (h.chosen hmay hfirst) (ih (h.launch hmay hfirst))

/-- An act puts steps in flight in their turn. -/
theorem Sound.inTurn_dispatches {plan : Plan} {earlier lost : List String} {r : Run}
    (h : Sound r lost) (excused : Excused r lost) (about : r.plan = plan)
    (steps : plan.pipeline.stepIds.Perm (earlier ++ r.waitingIds)) (a : Act) :
    InTurn plan earlier (r.dispatches a) := by
  cases hput : r.dispatches a with
  | nil => exact .nil
  | cons d rest =>
    have hmem : d.2.step.id ∈ r.launches a := by
      rw [← idsOf_dispatches, hput]
      exact List.mem_cons_self
    obtain ⟨rfl, hacts, hunstopped, hmay⟩ := may_of_mem_launches hmem
    have hrunning := running_of_dispatcherActs hacts
    obtain ⟨huncancelled, hheed⟩ := heed_eq_self h.placed hrunning hmay
    have hround : r.dispatches .round =
        dispatchesUpTo r.heed.collect.waiting.length r.heed.collect := by
      show (if r.dispatcherActs && r.expired.isNone then _ else []) = _
      rw [hacts, hunstopped]
      rfl
    rw [← hput, hround, hheed]
    have hcollected : Sound r.collect lost := by simpa using h.change (.collects hrunning)
    refine Poised.inTurn _ ⟨hcollected, fun id hid => ?_, ?_, ?_, ?_, ?_⟩
    · exact about ▸ h.forsakes_of_lost excused hunstopped huncancelled hid
    · rw [collect_eq]
      exact about
    · exact (collect_keeps r).1.trans hrunning
    · intro f hf
      rw [collect_eq] at hf
      simpa using (List.mem_filter.1 hf).2
    · rw [waitingIds_collect]
      exact steps

/-- A history puts steps in flight in their turn. -/
theorem Sound.inTurn_dispatched {plan : Plan} {earlier lost : List String} {r : Run}
    (h : Sound r lost) (excused : Excused r lost) (about : r.plan = plan)
    (steps : plan.pipeline.stepIds.Perm (earlier ++ r.waitingIds)) (acts : List Act) :
    InTurn plan earlier (r.dispatched acts) := by
  induction acts generalizing r lost earlier with
  | nil => exact .nil
  | cons a acts ih =>
    refine (h.inTurn_dispatches excused about steps a).append (ih (h.perform a) ?_ ?_ ?_)
    · have hexcused := h.excused excused [a]
      rw [Run.lost, Run.lost, List.append_nil] at hexcused
      exact hexcused
    · exact (h.about_performAll [a]).1.trans about
    · have hperform := (h.placed.waitingIds_perm_perform a).append_left earlier
      rw [← List.append_assoc, ← idsOf_dispatches] at hperform
      exact steps.trans hperform

/-! ## All that is put in flight -/

/-- The steps that are put in flight when a run is begun, if it is. -/
def entryDispatches (plan : Plan) (now : Nat) (environment : Environment) (reader : Option Reader)
    (cancelled : Bool) : List (Run × PipelineStep) :=
  match plan.pipeline.effectiveInputs plan.context,
    plan.executor.limit?.bind TimeLimit.sumFault? with
  | .ok (.ok inputs), none =>
    dispatchesUpTo plan.pipeline.steps.length
      (loaded plan now environment reader cancelled inputs)
  | _, _ => []

/-- The steps that are put in flight when a run is begun and in a history. -/
def allDispatched (plan : Plan) (now : Nat) (environment : Environment) (reader : Option Reader)
    (cancelled : Bool) (acts : List Act) : List (Run × PipelineStep) :=
  entryDispatches plan now environment reader cancelled ++
    (enter plan now environment reader cancelled).dispatched acts

theorem Rests.dispatched {plan : Plan} {r : Run} {told : List RunEvent} (h : Rests r plan told)
    (acts : List Act) : r.dispatched acts = [] := by
  have hnone := h.launched acts
  rw [← idsOf_dispatched] at hnone
  exact List.map_eq_nil_iff.1 hnone

/-- What is put in flight when a run is begun is in flight then. -/
theorem idsOf_entryDispatches (plan : Plan) (now : Nat) (environment : Environment)
    (reader : Option Reader) (cancelled : Bool) :
    idsOf (entryDispatches plan now environment reader cancelled) =
      (enter plan now environment reader cancelled).flightIds := by
  unfold entryDispatches enter
  cases plan.pipeline.effectiveInputs plan.context with
  | error fault => rfl
  | ok checked =>
    cases checked with
    | error failure =>
      dsimp only
      rw [(announce_alike _ _).flightIds]
      rfl
    | ok inputs =>
      cases plan.executor.limit?.bind TimeLimit.sumFault? with
      | some fault => rfl
      | none =>
        have hflights := flightIds_dispatchUpTo plan.pipeline.steps.length
          (loaded plan now environment reader cancelled inputs)
        rw [show (loaded plan now environment reader cancelled inputs).flightIds = [] from rfl,
          List.nil_append] at hflights
        exact (idsOf_dispatchesUpTo _ _).trans
          (hflights.symm.trans (concludeIfIdle_alike _).flightIds.symm)

theorem inTurn_entryDispatches {plan : Plan} (formed : plan.pipeline.WellFormed) (now : Nat)
    (environment : Environment) (reader : Option Reader) (cancelled : Bool) :
    InTurn plan [] (entryDispatches plan now environment reader cancelled) := by
  unfold entryDispatches
  split
  · next inputs _ _ =>
    exact Poised.inTurn _
      { sound := .loaded formed now environment reader cancelled inputs
        forsaken := fun _ hnone => absurd hnone List.not_mem_nil, about := rfl, running := rfl
        busy := fun _ hf => absurd hf List.not_mem_nil, steps := .refl _ }
  · exact .nil

/-- In all of its history a run puts steps in flight in their turn, and no others are put in
flight. -/
theorem inTurn_allDispatched {plan : Plan} (formed : plan.pipeline.WellFormed) (now : Nat)
    (environment : Environment) (reader : Option Reader) (cancelled : Bool) (acts : List Act) :
    InTurn plan [] (allDispatched plan now environment reader cancelled acts) ∧
      idsOf (allDispatched plan now environment reader cancelled acts) =
        (enter plan now environment reader cancelled).flightIds ++
          (enter plan now environment reader cancelled).launched acts := by
  have hids := idsOf_entryDispatches plan now environment reader cancelled
  refine ⟨(inTurn_entryDispatches formed now environment reader cancelled).append ?_, ?_⟩
  · rw [List.nil_append, hids]
    cases enter_cases formed now environment reader cancelled with
    | begun inputs accepted timed sound about fresh =>
      have hsteps := begin_perm plan now environment reader cancelled inputs formed.stepIds_nodup
      rw [← enter_eq_begin accepted timed] at hsteps
      exact sound.inTurn_dispatched .nil about.1 hsteps acts
    | refused failure rejected rests reported =>
      rw [rests.dispatched acts]
      exact .nil
    | raised fault faulty rests ended =>
      rw [rests.dispatched acts]
      exact .nil
  · rw [allDispatched, idsOf_append, hids, idsOf_dispatched]

end Conduit.Run

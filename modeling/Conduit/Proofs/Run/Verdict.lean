import Conduit.Proofs.Run.Places

/-!
# What a run makes of its reports

A run keeps account of which steps succeeded and of what stopped it. Both are read off the reports,
and no step goes missing unless the run was cancelled or stopped by its time limit, or a step was
given up. So when nothing is in flight and nothing failed, a step that waits could go.

* `Plan.Forsakes`, `Plan.Steadfast` — a listener that gives up a step, and nobody does;
* `Run.Judged` — the invariant, kept by every change (`Run.Judged.change`);
* `Run.Intact` — a run in which no step was given up;
* `Run.Judged.isReady_head` — a step that waits may go when nothing else does;
* `Run.Judged.waiting_eq_nil` — a run that gets stuck has failed or was cancelled.
-/

namespace Conduit

/-- The listener gives up the step of an id over some event about it. -/
def Plan.Forsakes (p : Plan) (id : String) : Prop :=
  ∃ e : RunEvent, e.step? = some id ∧ p.delivery.givesUp e = true

/-- Nobody gives up a step: no connector answers so, and the listener does so over no event. -/
structure Plan.Steadfast (p : Plan) : Prop where
  connectors : ∀ s ∈ p.pipeline.steps, ∀ connector,
    p.executor.registry.connectorOf s.step = .ok connector → ∀ input before after,
      ((connector.call s.step input p.context before).2.finish after).2 ≠ .error .cancelled
  listener : ∀ e, p.delivery.givesUp e = false

/-- The stage of a step has its grounds in what is run: the connector is that of the step, and a
step is given up over an event only by a listener who does such things. -/
def Plan.Grounds (p : Plan) (s : PipelineStep) : Stage → Prop
  | .opening givenUp => givenUp = true → p.Forsakes s.step.id
  | .entering _ connector => p.executor.registry.connectorOf s.step = .ok connector
  | .calling call _ => ∃ connector input before,
      p.executor.registry.connectorOf s.step = .ok connector ∧
        call = (connector.call s.step input p.context before).2
  | .closing _ givenUp => givenUp = true → p.Forsakes s.step.id
  | _ => True

theorem Plan.Forsakes.not_steadfast {p : Plan} {id : String} (h : p.Forsakes id) :
    ¬p.Steadfast := by
  obtain ⟨e, -, h⟩ := h
  intro steadfast
  rw [steadfast.listener e] at h
  cases h

namespace Run

/-- A step is given up only where someone does such things. -/
theorem GivesUp.not_steadfast {r : Run} {f : Flight} (h : GivesUp r f)
    (flying : f.item ∈ r.plan.pipeline.steps) (grounds : r.plan.Grounds f.item f.stage) :
    ¬r.plan.Steadfast := by
  cases h with
  | start stage =>
    rw [stage] at grounds
    exact Plan.Forsakes.not_steadfast (grounds rfl)
  | answer call overdue stage answer =>
    rw [stage] at grounds
    obtain ⟨connector, input, before, hfound, rfl⟩ := grounds
    exact fun steadfast =>
      steadfast.connectors f.item flying connector hfound input before r.environment answer
  | last report stage =>
    rw [stage] at grounds
    exact Plan.Forsakes.not_steadfast (grounds rfl)

/-- A step is given up over its end only by the listener. -/
theorem GivesUp.forsakes {r : Run} {f : Flight} (h : GivesUp r f)
    (closing : f.stage.isClosing = true) (grounds : r.plan.Grounds f.item f.stage) :
    r.plan.Forsakes f.id := by
  cases h with
  | start stage =>
    rw [stage] at closing
    cases closing
  | answer call overdue stage answer =>
    rw [stage] at closing
    cases closing
  | last report stage =>
    rw [stage] at grounds
    exact grounds rfl

/-- A report that a run can have: what succeeded has no failure and everything else has one, and
steps are cancelled when a request to cancel is heeded or when they are given up. -/
def Credible (r : Run) (x : Report) : Prop :=
  match x.status with
  | .success => x.failure = none
  | .error => x.failure.isSome = true
  | .cancelled => x.failure.isSome = true ∧ (r.heeded = true ∨ ¬r.plan.Steadfast)
  | _ => False

/-- What a run makes of its reports. -/
structure Judged (r : Run) : Prop where
  succeeded : r.succeeded = (r.reports.filter fun x => x.status == .success).map Report.id
  failure : r.failure = (r.expired <|> r.reports.findSome? Report.fault?)
  reports : ∀ x ∈ r.reports, r.Credible x
  flights : ∀ f ∈ r.flights, ∀ x, f.stage.report? = some x → r.Credible x
  grounds : ∀ f ∈ r.flights, r.plan.Grounds f.item f.stage
  dropped : ∀ f ∈ r.flights, f.stage = .ended none →
    r.heeded = true ∨ r.expired.isSome = true ∨ r.plan.Forsakes f.id
  heeded : r.heeded = true → r.cancelled = true
  everyone : ∀ s ∈ r.plan.pipeline.steps, s.step.id ∈ r.waitingIds ∨ s.step.id ∈ r.flightIds ∨
    s.step.id ∈ r.reportIds ∨ r.heeded = true ∨ r.expired.isSome = true ∨
      r.plan.Forsakes s.step.id
  released : ∀ f ∈ r.flights, ∀ id ∈ f.item.dependsOn, id ∈ r.succeeded

/-- What a run can have had reported stays so. -/
theorem Credible.mono {r r' : Run} {x : Report} (h : r.Credible x) (plan : r'.plan = r.plan)
    (heeded : r.heeded = true → r'.heeded = true) : r'.Credible x := by
  unfold Credible at h ⊢
  cases hstatus : x.status with
  | cancelled =>
    rw [hstatus] at h
    rw [plan]
    exact ⟨h.1, h.2.imp_left heeded⟩
  | _ =>
    rw [hstatus] at h
    exact h

/-- The report of a failure says what went wrong. -/
theorem Credible.exists_failure {r : Run} {x : Report} (h : r.Credible x)
    (error : x.status = .error) : ∃ failure, x.failure = some failure := by
  unfold Credible at h
  rw [error] at h
  exact Option.isSome_iff_exists.1 h

theorem Alike.judged {r r' : Run} (alike : Alike r r') (h : Judged r) : Judged r' where
  succeeded := by rw [alike.succeeded, alike.reports]; exact h.succeeded
  failure := by rw [alike.failure, alike.expired, alike.reports]; exact h.failure
  reports := by
    intro x hx
    rw [alike.reports] at hx
    exact (h.reports x hx).mono alike.plan fun hh => alike.heeded.trans hh
  flights := by
    intro f' hf x hx
    obtain ⟨f, hf, -, -, hstage⟩ := alike.mem_flights hf
    exact (h.flights f hf x (hstage ▸ hx)).mono alike.plan fun hh => alike.heeded.trans hh
  grounds := by
    intro f' hf
    obtain ⟨f, hf, hitem, -, hstage⟩ := alike.mem_flights hf
    rw [alike.plan, hitem, hstage]
    exact h.grounds f hf
  dropped := by
    intro f' hf hended
    obtain ⟨f, hf, hitem, -, hstage⟩ := alike.mem_flights hf
    have hid : f'.id = f.id := congrArg (fun s => s.step.id) hitem
    rw [alike.heeded, alike.expired, alike.plan, hid]
    exact h.dropped f hf (hstage ▸ hended)
  heeded := fun hh => alike.cancelled (h.heeded (alike.heeded.symm.trans hh))
  everyone := by
    rw [alike.plan, alike.waitingIds, alike.flightIds, alike.reportIds, alike.heeded,
      alike.expired]
    exact h.everyone
  released := by
    intro f' hf id hid
    obtain ⟨f, hf, hitem, -⟩ := alike.mem_flights hf
    rw [alike.succeeded]
    exact h.released f hf id (hitem ▸ hid)

/-- A shift of a step keeps the account, if the step can have been reported as it is. -/
theorem Shift.judged {r r' : Run} {f g : Flight} {told : List RunEvent} {outputs : Outputs}
    (shift : Shift r r' g told outputs) (flies : r.flight? f.id = some f) (item : g.item = f.item)
    (credible : ∀ x, g.stage.report? = some x → r.Credible x)
    (grounds : r.plan.Grounds f.item g.stage)
    (dropped : g.stage = .ended none →
      r.heeded = true ∨ r.expired.isSome = true ∨ r.plan.Forsakes g.id) (h : Judged r) :
    Judged r' where
  succeeded := by rw [shift.succeeded, shift.reports]; exact h.succeeded
  failure := by rw [shift.failure, shift.expired, shift.reports]; exact h.failure
  reports := by
    intro x hx
    rw [shift.reports] at hx
    exact (h.reports x hx).mono shift.plan fun hh => shift.heeded.trans hh
  flights := by
    intro e he x hx
    rcases shift.mem_flights he with rfl | ⟨he, -⟩
    · exact (credible x hx).mono shift.plan fun hh => shift.heeded.trans hh
    · exact (h.flights e he x hx).mono shift.plan fun hh => shift.heeded.trans hh
  grounds := by
    intro e he
    rw [shift.plan]
    rcases shift.mem_flights he with rfl | ⟨he, -⟩
    · rw [item]
      exact grounds
    · exact h.grounds e he
  dropped := by
    intro e he hended
    rw [shift.heeded, shift.expired, shift.plan]
    rcases shift.mem_flights he with rfl | ⟨he, -⟩
    · exact dropped hended
    · exact h.dropped e he hended
  heeded := fun hh => shift.cancelled (h.heeded (shift.heeded.symm.trans hh))
  everyone := by
    rw [shift.plan, shift.waitingIds, shift.flightIds, shift.reportIds, shift.heeded,
      shift.expired]
    exact h.everyone
  released := by
    intro e he id hid
    rw [shift.succeeded]
    rcases shift.mem_flights he with rfl | ⟨he, -⟩
    · rw [item] at hid
      exact h.released f (flight?_mem flies) id hid
    · exact h.released e he id hid

theorem Move.judged {r r' : Run} {f : Flight} (move : Move r r' f)
    (flies : r.flight? f.id = some f) (h : Judged r) : Judged r' := by
  have hgrounds := h.grounds f (flight?_mem flies)
  cases move with
  | opens due stage shift =>
    exact shift.judged flies rfl (by simp [Stage.report?]) (fun gives => ⟨_, rfl, gives⟩)
      (by simp) h
  | prepares due input connector stage built found timed shift =>
    exact shift.judged flies rfl (by simp [Stage.report?]) found (by simp) h
  | calls due input connector overdue stage shift =>
    rw [stage] at hgrounds
    exact shift.judged flies rfl (by simp [Stage.report?])
      ⟨connector, input, r.environment, hgrounds, rfl⟩ (by simp) h
  | fails due failure why shift =>
    refine shift.judged flies rfl ?_ (fun gives => ⟨_, rfl, gives⟩) (by simp) h
    rintro x ⟨⟩
    rfl
  | succeeds due call overdue output seen outputs stage answer copyable recorded shift =>
    refine shift.judged flies rfl ?_ (fun gives => ⟨_, rfl, gives⟩) (by simp) h
    rintro x ⟨⟩
    rfl
  | ends report stage shift =>
    refine shift.judged flies rfl ?_ trivial (by simp) h
    rintro x ⟨⟩
    exact h.flights f (flight?_mem flies) report (by rw [stage]; rfl)

/-- A step is interrupted when a request to cancel is heeded or the time limit stopped the run, or
it is given up. -/
theorem Cut.judged {r r' : Run} {f : Flight} (cut : Cut r r' f)
    (called : r.heeded = true ∨ r.expired.isSome = true ∨ GivesUp r f)
    (flying : f.item ∈ r.plan.pipeline.steps) (flies : r.flight? f.id = some f) (h : Judged r) :
    Judged r' := by
  have hgrounds := h.grounds f (flight?_mem flies)
  cases cut with
  | past stage same =>
    rw [same]
    exact { h with }
  | drops stage shift =>
    refine shift.judged flies rfl (by simp [Stage.report?]) trivial (fun _ => ?_) h
    exact called.imp_right (Or.imp_right fun gives => absurd stage gives.stage_ne_queued)
  | loses report givenUp stage shift =>
    refine shift.judged flies rfl (by simp [Stage.report?]) trivial (fun _ => ?_) h
    exact called.imp_right (Or.imp_right fun gives =>
      gives.forsakes (by rw [stage]; rfl) hgrounds)
  | stops due stage shift =>
    refine shift.judged flies rfl ?_ (fun gives => ⟨_, rfl, gives⟩) (by simp) h
    rintro x ⟨⟩
    unfold interruption
    cases hexpired : r.expired with
    | some failure => exact rfl
    | none =>
      rw [hexpired] at called
      refine ⟨rfl, called.imp_right fun hgives => ?_⟩
      exact (hgives.resolve_left (by simp)).not_steadfast flying hgrounds

theorem Judged.collect {r : Run} (placed : Placed r) (h : Judged r) : Judged r.collect := by
  rw [collect_eq]
  refine
    { succeeded := ?_, failure := ?_, reports := ?_, flights := ?_, grounds := ?_, dropped := ?_,
      heeded := h.heeded, everyone := ?_, released := ?_ }
  · show r.succeeded ++ _ = _
    rw [h.succeeded, List.filter_append, List.map_append]
  · show (r.failure <|> _) = _
    rw [h.failure, List.findSome?_append]
    -- the time limit comes first, then the first failure that was reported
    cases r.expired with
    | some failure => rfl
    | none => cases r.reports.findSome? Report.fault? <;> rfl
  · intro x hx
    rcases List.mem_append.1 hx with hx | hx
    · exact h.reports x hx
    · obtain ⟨f, hf, hstage, -⟩ := placed.mem_overReports hx
      exact h.flights f hf x (by rw [hstage]; rfl)
  · intro f hf
    exact h.flights f (List.mem_of_mem_filter hf)
  · intro f hf
    exact h.grounds f (List.mem_of_mem_filter hf)
  · intro f hf
    exact h.dropped f (List.mem_of_mem_filter hf)
  · -- a step that is over is reported then, or its report is lost
    intro s hs
    unfold flightIds reportIds
    rw [List.map_append, List.mem_append]
    rcases h.everyone s hs with hwaits | hflies | hreported | hstopped
    · exact .inl hwaits
    · obtain ⟨f, hf, hid⟩ := List.mem_map.1 hflies
      rw [← hid]
      cases hstage : f.stage with
      | ended report =>
        cases report with
        | none => exact .inr (.inr (.inr (hid ▸ h.dropped f hf hstage)))
        | some x =>
          have hx : x ∈ r.overReports := List.mem_filterMap.2 ⟨f, hf, by rw [hstage]; rfl⟩
          have hitem := placed.own f hf x (by rw [hstage]; rfl)
          have hxid : x.id = f.id := by unfold Report.id Flight.id; rw [hitem]
          exact .inr (.inr (.inl (.inr (List.mem_map.2 ⟨x, hx, hxid⟩))))
      | _ =>
        have hkept : f ∈ r.flights.filter fun f => !f.stage.isEnded :=
          List.mem_filter.2 ⟨hf, by rw [hstage]; rfl⟩
        exact .inr (.inl (List.mem_map_of_mem hkept))
    · exact .inr (.inr (.inl (.inl hreported)))
    · exact .inr (.inr (.inr hstopped))
  · intro f hf id hid
    exact List.mem_append_left _ (h.released f (List.mem_of_mem_filter hf) id hid)

theorem Judged.launch {r : Run} (h : Judged r) {s : PipelineStep}
    (first : r.waiting.find? r.isReady = some s) : Judged (r.launch s) := by
  have hready : ∀ id ∈ s.dependsOn, id ∈ r.succeeded := by
    intro id hid
    have hall := List.find?_some first
    unfold isReady at hall
    exact of_decide_eq_true (List.all_eq_true.1 hall id hid)
  refine
    { succeeded := h.succeeded, failure := h.failure, reports := h.reports, flights := ?_,
      grounds := ?_, dropped := ?_, heeded := h.heeded, everyone := ?_, released := ?_ }
  · intro f hf x hx
    rcases List.mem_append.1 hf with hf | hf
    · exact h.flights f hf x hx
    · rw [List.mem_singleton.1 hf] at hx
      cases hx
  · intro f hf
    rcases List.mem_append.1 hf with hf | hf
    · exact h.grounds f hf
    · rw [List.mem_singleton.1 hf]
      trivial
  · intro f hf hended
    rcases List.mem_append.1 hf with hf | hf
    · exact h.dropped f hf hended
    · rw [List.mem_singleton.1 hf] at hended
      cases hended
  · intro t ht
    rw [mem_waitingIds_launch, flightIds_launch, List.mem_append, List.mem_singleton]
    rcases h.everyone t ht with hwaits | hflies | hrest
    · by_cases hid : t.step.id = s.step.id
      · exact .inr (.inl (.inr hid))
      · exact .inl ⟨hwaits, hid⟩
    · exact .inr (.inl (.inl hflies))
    · exact .inr (.inr hrest)
  · intro f hf
    rcases List.mem_append.1 hf with hf | hf
    · exact h.released f hf
    · rw [List.mem_singleton.1 hf]
      exact hready

/-- Every change keeps the account. -/
theorem Judged.change {r r' : Run} {lost : List String} (placed : Placed r) (h : Judged r)
    (change : Change r r' lost) : Judged r' := by
  cases change with
  | stirs stir => exact stir.toAlike.judged h
  | moves flies move => exact move.judged flies h
  | cuts called flies cut =>
    exact cut.judged called (placed.flying _ (flight?_mem flies)) flies h
  | heeds running asked =>
    exact
      { h with
        reports := fun x hx => (h.reports x hx).mono rfl fun _ => rfl
        flights := fun f hf x hx => (h.flights f hf x hx).mono rfl fun _ => rfl
        dropped := fun _ _ _ => .inl rfl
        heeded := fun _ => asked
        everyone := fun _ _ => .inr (.inr (.inr (.inl rfl))) }
  | collects running => exact h.collect placed
  | launches running may first => exact h.launch first
  | concludes running idle stuck => exact (conclude_alike r).judged h
  | closes phase => exact (close_alike r _).judged h

/-- A time limit that stops a run is what stopped it. -/
theorem Judged.stoppedBy {r : Run} (h : Judged r) (limit : TimeLimit) :
    Judged (r.stoppedBy limit) :=
  { h with
    failure := rfl
    dropped := fun _ _ _ => .inr (.inl rfl)
    everyone := fun _ _ => .inr (.inr (.inr (.inr (.inl rfl)))) }

/-! ## What follows for the steps -/

/-- A run has failed if its time limit stopped it or the report of a step says so. -/
theorem Judged.failure_eq_none_iff {r : Run} (h : Judged r) :
    r.failure = none ↔ r.expired = none ∧ ∀ x ∈ r.reports, x.status ≠ .error := by
  rw [h.failure]
  cases r.expired with
  | some failure => simp
  | none =>
    show r.reports.findSome? Report.fault? = none ↔ _
    rw [List.findSome?_eq_none_iff]
    constructor
    · intro hnone
      refine ⟨rfl, ?_⟩
      intro x hx herror
      obtain ⟨failure, hfailure⟩ := (h.reports x hx).exists_failure herror
      have hfault := hnone x hx
      unfold Report.fault? at hfault
      rw [if_pos herror, hfailure] at hfault
      cases hfault
    · rintro ⟨-, hnone⟩ x hx
      exact if_neg (hnone x hx)

/-- A run that its time limit stopped has failed because of it. -/
theorem Judged.failure_of_expired {r : Run} (h : Judged r) {limit : Failure}
    (expired : r.expired = some limit) : r.failure = some limit := by
  rw [h.failure, expired]
  rfl

/-- No step was given up: none was reported to be cancelled, and the listener gives up none. -/
structure Intact (r : Run) : Prop where
  reports : ∀ x ∈ r.reports, x.status ≠ .cancelled
  listener : ∀ id, ¬r.plan.Forsakes id

theorem Alike.intact {r r' : Run} (alike : Alike r r') (h : Intact r') : Intact r where
  reports := by
    rw [← alike.reports]
    exact h.reports
  listener := by
    rw [← alike.plan]
    exact h.listener

/-- No step was given up where nobody does such things, if the run was not cancelled. -/
theorem Judged.intact {r : Run} (h : Judged r) (steadfast : r.plan.Steadfast)
    (uncancelled : r.cancelled = false) : Intact r where
  listener _ forsakes := forsakes.not_steadfast steadfast
  reports x hx hcancelled := by
    have hcredible := h.reports x hx
    unfold Credible at hcredible
    rw [hcancelled] at hcredible
    rw [h.heeded (hcredible.2.resolve_right (not_not_intro steadfast))] at uncancelled
    cases uncancelled

/-- In a run that has not failed every step that was reported succeeded, if none was given up. -/
theorem Judged.success_of_mem {r : Run} (h : Judged r) (intact : Intact r)
    (fine : r.failure = none) {x : Report} (hx : x ∈ r.reports) : x.status = .success := by
  have hcredible := h.reports x hx
  unfold Credible at hcredible
  cases hstatus : x.status with
  | success => rfl
  | error => exact absurd hstatus ((h.failure_eq_none_iff.1 fine).2 x hx)
  | cancelled => exact absurd hstatus (intact.reports x hx)
  | pending => rw [hstatus] at hcredible; exact hcredible.elim
  | running => rw [hstatus] at hcredible; exact hcredible.elim

theorem Judged.mem_succeeded {r : Run} (h : Judged r) {x : Report} (hx : x ∈ r.reports)
    (status : x.status = .success) : x.id ∈ r.succeeded := by
  rw [h.succeeded]
  exact List.mem_map_of_mem (List.mem_filter.2 ⟨hx, by rw [status]; rfl⟩)

/-- When nothing is in flight in a run that has not failed and was not cancelled, the first of the
steps that wait may go, if no step was given up: it depends on steps that succeeded alone. -/
theorem Judged.isReady_head {r : Run} (h : Judged r) (placed : Placed r)
    (formed : r.plan.pipeline.WellFormed) (intact : Intact r) (fine : r.failure = none)
    (uncancelled : r.cancelled = false) (idle : r.flights = []) {s : PipelineStep}
    {rest : List PipelineStep} (waits : r.waiting = s :: rest) : r.isReady s = true := by
  have hsub := placed.waiting
  rw [waits] at hsub
  obtain ⟨left, right, hsteps, hs, hrest⟩ := List.cons_sublist_iff.1 hsub
  obtain ⟨front, back, rfl⟩ := List.append_of_mem hs
  rw [List.append_assoc, List.cons_append] at hsteps
  unfold isReady
  rw [List.all_eq_true]
  intro id hdep
  obtain ⟨u, hu, rfl⟩ := List.mem_map.1 (formed.dependsOn_before front s _ hsteps id hdep)
  have hmem : u ∈ r.plan.pipeline.steps := by
    rw [hsteps]
    exact List.mem_append_left _ hu
  -- a step before the first that waits does not wait: the ids of the pipeline are distinct
  have hwaits : u.step.id ∉ r.waitingIds := by
    have hnodup := formed.stepIds_nodup
    unfold Pipeline.stepIds at hnodup
    rw [hsteps, List.map_append, List.nodup_append'] at hnodup
    intro hin
    refine hnodup.2.2 (List.mem_map_of_mem hu) ?_
    obtain ⟨t, ht, hid⟩ := List.mem_map.1 hin
    rw [waits] at ht
    rw [← hid]
    refine List.mem_map_of_mem (List.mem_cons.2 ?_)
    exact (List.mem_cons.1 ht).imp_right fun ht => List.mem_append_right _ (hrest.subset ht)
  apply decide_eq_true
  -- of the places that a step before it can be in, only that of the reported ones is left
  rcases h.everyone u hmem with hw | hf | hr | hh | he | hforsakes
  · exact absurd hw hwaits
  · rw [flightIds_eq_nil idle] at hf
    cases hf
  · obtain ⟨x, hx, hxid⟩ := List.mem_map.1 hr
    rw [← hxid]
    exact h.mem_succeeded hx (h.success_of_mem intact fine hx)
  · rw [h.heeded hh] at uncancelled
    cases uncancelled
  · rw [(h.failure_eq_none_iff.1 fine).1] at he
    cases he
  · exact absurd hforsakes (intact.listener _)

/-- A run that has not failed and was not cancelled does not get stuck, if no step was given up:
when nothing is in flight and no step that waits may go, none waits. -/
theorem Judged.waiting_eq_nil {r : Run} (h : Judged r) (placed : Placed r)
    (formed : r.plan.pipeline.WellFormed) (intact : Intact r) (fine : r.failure = none)
    (uncancelled : r.cancelled = false) (idle : r.flights = [])
    (stuck : r.mayDispatch = true → r.waiting.find? r.isReady = none) : r.waiting = [] := by
  have hmay : r.mayDispatch = true := by
    rw [mayDispatch_iff, idle]
    exact ⟨fine, uncancelled, r.plan.executor.concurrency_pos⟩
  cases hwaiting : r.waiting with
  | nil => rfl
  | cons s rest =>
    have hs : s ∈ r.waiting := by rw [hwaiting]; exact List.mem_cons_self
    have hready := h.isReady_head placed formed intact fine uncancelled idle hwaiting
    exact absurd hready (List.find?_eq_none.1 (stuck hmay) s hs)

end Run

end Conduit

import Conduit.Proofs.Run.Places

/-!
# What is on record of a step

Three records are kept of a run: the events that were made, the outputs, and the reports of the
steps that are over. How they agree on a step goes by the place of the step, and a report that is
lost is the one way in which they come apart.

* `Outputs.get?_record` — recording an output;
* `Run.Recorded` — what was told of a step, and its output;
* `Run.Booked` — the invariant;
* `Run.Booked.change` — every change keeps it.
-/

namespace Conduit

/-! ## Outputs -/

namespace Outputs

/-- An output is recorded at the end, if the step has none. -/
theorem record_eq_ok {o o' : Outputs} {step : String} {output : Output}
    (h : o.record step output = .ok o') :
    o.get? step = none ∧ o' = { entries := o.entries ++ [(step, output)] } := by
  unfold record at h
  split at h
  · cases h
  · next hhas =>
    cases h
    unfold has at hhas
    exact ⟨by simpa using hhas, rfl⟩

/-- The output of a step that has none yet is the one that is recorded, and those of the others are
kept. -/
theorem get?_record {o o' : Outputs} {step : String} {output : Output}
    (h : o.record step output = .ok o') (id : String) :
    o'.get? id = if id = step then some output else o.get? id := by
  obtain ⟨hnone, rfl⟩ := record_eq_ok h
  unfold get? at hnone ⊢
  rw [List.lookup_append]
  by_cases hid : id = step
  · subst hid
    rw [hnone]
    simp
  · rw [if_neg hid, List.lookup_cons, beq_eq_false_iff_ne.2 hid]
    exact Option.or_none

theorem mem_steps_iff {o : Outputs} {id : String} :
    id ∈ o.steps ↔ ∃ output, o.get? id = some output := by
  rw [← Option.isSome_iff_exists]
  unfold steps get?
  rw [List.lookup_isSome_iff, List.mem_map]
  constructor
  · rintro ⟨e, he, rfl⟩
    exact ⟨e, he, by simp⟩
  · rintro ⟨e, he, hid⟩
    exact ⟨e, he, by simpa using Eq.symm (by simpa using hid)⟩

theorem steps_record {o o' : Outputs} {step : String} {output : Output}
    (h : o.record step output = .ok o') : o'.steps = o.steps ++ [step] ∧ step ∉ o.steps := by
  obtain ⟨hnone, rfl⟩ := record_eq_ok h
  refine ⟨List.map_append, ?_⟩
  rw [mem_steps_iff, hnone]
  simp

theorem size_eq (o : Outputs) : o.size = o.steps.length := (List.length_map _).symm

end Outputs

/-! ## Records -/

/-- What can be told of a step. -/
inductive Notice where
  /-- That it begins. -/
  | start
  /-- That it stopped, and how. -/
  | stop (status : StepStatus)
deriving DecidableEq

/-- What an event tells of the step of an id. -/
def RunEvent.noticeOf (id : String) : RunEvent → Option Notice
  | started s => if s.step.id = id then some .start else none
  | completed s _ _ => if s.step.id = id then some (.stop .success) else none
  | stopped s status _ _ => if s.step.id = id then some (.stop status) else none
  | done _ => none

theorem RunEvent.noticeOf_of_ne {e : RunEvent} {step id : String} (h : e.step? = some step)
    (hne : id ≠ step) : e.noticeOf id = none := by
  have hother : ∀ s : PipelineStep, some s.step.id = some step → s.step.id ≠ id := by
    intro s hs heq
    exact hne (heq.symm.trans (Option.some.inj hs))
  cases e with
  | started s => exact if_neg (hother s h)
  | completed s output micros => exact if_neg (hother s h)
  | stopped s status failure micros => exact if_neg (hother s h)
  | done result => rfl

/-- The output that a report speaks of. -/
def Report.given (x : Report) : Option Output :=
  if x.status = .success then some x.output else none

/-- Whether the start of a step was told and its end was not. -/
def Stage.isUnderway : Stage → Bool
  | opening _ => true
  | entering _ _ => true
  | calling _ _ => true
  | _ => false

namespace Run

/-- What was told of a step, in order. -/
def told (r : Run) (id : String) : List Notice := r.events.filterMap (RunEvent.noticeOf id)

/-- What was told of a step, and the output that it has. -/
def Recorded (r : Run) (id : String) (notices : List Notice) (output : Option Output) :
    Prop :=
  r.told id = notices ∧ r.outputs.get? id = output

/-- What is on record of a step in flight; `lost` are the steps whose reports were lost. -/
def Agrees (r : Run) (lost : List String) (f : Flight) : Prop :=
  match f.stage with
  | .queued => r.Recorded f.id [] none
  | .closing x _ => r.Recorded f.id [.start, .stop x.status] x.given
  | .ended (some x) => r.Recorded f.id [.start, .stop x.status] x.given
  | .ended none => r.Recorded f.id [] none ∨ f.id ∈ lost
  | _ => r.Recorded f.id [.start] none

/-- What is on record of the steps of a run; `lost` are the steps whose reports were lost. -/
structure Booked (r : Run) (lost : List String) : Prop where
  outputs : r.outputs.steps.Nodup
  waiting : ∀ id ∈ r.waitingIds, r.Recorded id [] none
  flights : ∀ f ∈ r.flights, r.Agrees lost f
  reports : ∀ x ∈ r.reports, r.Recorded x.id [.start, .stop x.status] x.given
  begun : ∀ id ∈ lost, ∃ status output, r.Recorded id [.start, .stop status] output
  gone : ∀ id ∈ lost, id ∉ r.waitingIds ∧ id ∉ r.reportIds
  cut : ∀ id ∈ lost, ∀ f ∈ r.flights, f.id = id → f.stage = .ended none
  others : ∀ id, id ∉ r.waitingIds → id ∉ r.flightIds → id ∉ r.reportIds → id ∉ lost →
    r.Recorded id [] none

theorem Agrees.of_queued {r : Run} {lost : List String} {f : Flight} (h : r.Agrees lost f)
    (stage : f.stage = .queued) : r.Recorded f.id [] none := by
  unfold Agrees at h
  rw [stage] at h
  exact h

theorem Agrees.of_isUnderway {r : Run} {lost : List String} {f : Flight} (h : r.Agrees lost f)
    (stage : f.stage.isUnderway = true) : r.Recorded f.id [.start] none := by
  unfold Agrees at h
  cases hstage : f.stage <;> rw [hstage] at h stage <;> first | exact h | cases stage

theorem Agrees.of_report? {r : Run} {lost : List String} {f : Flight} (h : r.Agrees lost f)
    {x : Report} (stage : f.stage.report? = some x) :
    r.Recorded f.id [.start, .stop x.status] x.given := by
  unfold Agrees at h
  cases hstage : f.stage <;> rw [hstage] at h stage <;> cases stage <;> exact h

theorem Stumbles.isUnderway {r : Run} {f : Flight} {failure : Failure}
    (h : Stumbles r f failure) : f.stage.isUnderway = true := by
  cases h with
  | unbuilt fault stage built => rw [stage]; rfl
  | unconnected failure stage found => rw [stage]; rfl
  | untimed limit fault stage limited faulty => rw [stage]; rfl
  | late limit stage limited =>
    rcases stage with ⟨input, connector, stage⟩ | ⟨call, stage⟩
    · rw [stage]; rfl
    · rw [stage]; rfl
  | refused call overdue trouble stage answer kept => rw [stage]; rfl
  | uncopyable call overdue fault stage answer => rw [stage]; rfl
  | repeated call overdue fault stage taken => rw [stage]; rfl

/-! ## What a change leaves on record -/

/-- What is on record of a step is kept if the same is told of it and it has the same output. -/
theorem Recorded.of_eq {r r' : Run} {id : String} {notices : List Notice}
    {output : Option Output} (h : r.Recorded id notices output) (told : r'.told id = r.told id)
    (outputs : r'.outputs.get? id = r.outputs.get? id) : r'.Recorded id notices output :=
  ⟨told.trans h.1, outputs.trans h.2⟩

theorem Agrees.of_recorded {r r' : Run} {lost more : List String} {f : Flight}
    (h : r.Agrees lost f) (told : r'.told f.id = r.told f.id)
    (outputs : r'.outputs.get? f.id = r.outputs.get? f.id) : r'.Agrees (lost ++ more) f := by
  unfold Agrees at h ⊢
  cases hstage : f.stage with
  | ended x =>
    rw [hstage] at h
    cases x with
    | some x => exact h.of_eq told outputs
    | none =>
      rcases h with h | h
      · exact .inl (h.of_eq told outputs)
      · exact .inr (List.mem_append_left _ h)
  | _ =>
    rw [hstage] at h
    exact h.of_eq told outputs

/-- The step of a flight goes by its item and its stage. -/
theorem Agrees.of_stage {r : Run} {lost : List String} {f g : Flight} (h : r.Agrees lost f)
    (item : g.item = f.item) (stage : g.stage = f.stage) : r.Agrees lost g := by
  unfold Agrees Flight.id at h ⊢
  rw [item, stage]
  exact h

theorem Shift.told {r r' : Run} {g : Flight} {told : List RunEvent} {outputs : Outputs}
    (h : Shift r r' g told outputs) (id : String) :
    r'.told id = r.told id ++ told.filterMap (RunEvent.noticeOf id) := by
  unfold Run.told
  rw [h.events, List.filterMap_append]

theorem Alike.told {r r' : Run} (alike : Alike r r') (id : String) : r'.told id = r.told id := by
  unfold Run.told
  rcases alike.events with hevents | ⟨result, hevents⟩
  · rw [hevents]
  · rw [hevents, List.filterMap_append]
    exact List.append_nil _

/-- Nothing that is on record changes in a run alike. -/
theorem Alike.booked {r r' : Run} {lost : List String} (alike : Alike r r') (h : Booked r lost) :
    Booked r' lost := by
  have htold := alike.told
  have hget : ∀ id, r'.outputs.get? id = r.outputs.get? id := by rw [alike.outputs]; intro _; rfl
  have hwaiting := alike.waitingIds
  have hreports := alike.reportIds
  refine
    { outputs := ?_, waiting := ?_, flights := ?_, reports := ?_, begun := ?_, gone := ?_,
      cut := ?_, others := ?_ }
  · rw [alike.outputs]
    exact h.outputs
  · intro id hid
    rw [hwaiting] at hid
    exact (h.waiting id hid).of_eq (htold id) (hget id)
  · intro f' hf
    obtain ⟨f, hf, hitem, -, hstage⟩ := alike.mem_flights hf
    have hagrees : r'.Agrees (lost ++ []) f := (h.flights f hf).of_recorded (htold _) (hget _)
    rw [List.append_nil] at hagrees
    exact hagrees.of_stage hitem hstage
  · intro x hx
    rw [alike.reports] at hx
    exact (h.reports x hx).of_eq (htold _) (hget _)
  · intro id hid
    obtain ⟨status, output, hrecorded⟩ := h.begun id hid
    exact ⟨status, output, hrecorded.of_eq (htold id) (hget id)⟩
  · rw [hwaiting, hreports]
    exact h.gone
  · intro id hid f' hf hfid
    obtain ⟨f, hf, hitem, -, hstage⟩ := alike.mem_flights hf
    rw [hstage]
    exact h.cut id hid f hf (by rw [← hfid]; unfold Flight.id; rw [hitem])
  · intro id hw hf hr hl
    rw [hwaiting] at hw
    rw [alike.flightIds] at hf
    rw [hreports] at hr
    exact (h.others id hw hf hr hl).of_eq (htold id) (hget id)

/-- A shift of a step that is not over keeps the records straight, if what is on record of the step
agrees with its new stage; `more` is the step, if its report is lost. -/
theorem Shift.booked {r r' : Run} {f g : Flight} {told : List RunEvent} {outputs : Outputs}
    {lost more : List String} (shift : Shift r r' g told outputs)
    (flies : r.flight? f.id = some f) (placed : Placed r) (item : g.item = f.item)
    (unended : f.stage.isEnded = false)
    (quiet : ∀ id, id ≠ f.id → told.filterMap (RunEvent.noticeOf id) = [])
    (apart : ∀ id, id ≠ f.id → outputs.get? id = r.outputs.get? id) (once : outputs.steps.Nodup)
    (agrees : r'.Agrees (lost ++ more) g)
    (loses : ∀ id ∈ more, id = f.id ∧ g.stage = .ended none ∧
      ∃ status output, r'.Recorded f.id [.start, .stop status] output)
    (h : Booked r lost) : Booked r' (lost ++ more) := by
  have hid : g.id = f.id := by unfold Flight.id; rw [item]
  have hin : f.id ∈ r.flightIds := mem_flightIds (flight?_mem flies)
  have htold : ∀ id, id ≠ f.id → r'.told id = r.told id := by
    intro id hne
    rw [shift.told, quiet id hne, List.append_nil]
  have hget : ∀ id, id ≠ f.id → r'.outputs.get? id = r.outputs.get? id := by
    intro id hne
    rw [shift.outputs]
    exact apart id hne
  have hkept : ∀ id, id ≠ f.id → ∀ notices output, r.Recorded id notices output →
      r'.Recorded id notices output := fun id hne _ _ hrecorded =>
    hrecorded.of_eq (htold id hne) (hget id hne)
  have hwaiting := shift.waitingIds
  have hreports := shift.reportIds
  -- the step itself is nowhere but in flight, and no report of it was lost before
  have hwaits : ∀ id ∈ r.waitingIds, id ≠ f.id := fun id hw heq =>
    (placed.waits_only id hw).1 (heq ▸ hin)
  have hreported : f.id ∉ r.reportIds := placed.flies_only f.id hin
  have hlost : ∀ id ∈ lost, id ≠ f.id := by
    intro id hl heq
    have hended := h.cut id hl f (flight?_mem flies) heq.symm
    rw [hended] at unended
    cases unended
  refine
    { outputs := ?_, waiting := ?_, flights := ?_, reports := ?_, begun := ?_, gone := ?_,
      cut := ?_, others := ?_ }
  · rw [shift.outputs]
    exact once
  · intro id hw
    rw [hwaiting] at hw
    exact hkept id (hwaits id hw) _ _ (h.waiting id hw)
  · intro e he
    rcases shift.mem_flights he with rfl | ⟨he, hne⟩
    · exact agrees
    · rw [hid] at hne
      exact (h.flights e he).of_recorded (htold _ hne) (hget _ hne)
  · intro x hx
    rw [shift.reports] at hx
    have hne : x.id ≠ f.id := fun heq => hreported (heq ▸ List.mem_map_of_mem hx)
    exact hkept x.id hne _ _ (h.reports x hx)
  · intro id hl
    rcases List.mem_append.1 hl with hl | hl
    · obtain ⟨status, output, hrecorded⟩ := h.begun id hl
      exact ⟨status, output, hkept id (hlost id hl) _ _ hrecorded⟩
    · obtain ⟨rfl, -, hrecorded⟩ := loses id hl
      exact hrecorded
  · intro id hl
    rw [hwaiting, hreports]
    rcases List.mem_append.1 hl with hl | hl
    · exact h.gone id hl
    · obtain ⟨rfl, -⟩ := loses id hl
      exact ⟨fun hw => hwaits _ hw rfl, hreported⟩
  · intro id hl e he heid
    rcases List.mem_append.1 hl with hl | hl
    · rcases shift.mem_flights he with rfl | ⟨he, -⟩
      · exact absurd (heid.symm.trans hid) (hlost id hl)
      · exact h.cut id hl e he heid
    · obtain ⟨rfl, hended, -⟩ := loses id hl
      rcases shift.mem_flights he with rfl | ⟨-, hne⟩
      · exact hended
      · exact absurd (heid.trans hid.symm) hne
  · intro id hw hf hr hl
    rw [hwaiting] at hw
    rw [shift.flightIds] at hf
    rw [hreports] at hr
    have hne : id ≠ f.id := fun heq => hf (heq ▸ hin)
    exact hkept id hne _ _
      (h.others id hw hf hr fun hmem => hl (List.mem_append_left _ hmem))

/-! ## What each change leaves on record -/

/-- A step that goes on without an event about it and without an output. -/
theorem Shift.booked_silent {r r' : Run} {f g : Flight} {lost more : List String}
    (shift : Shift r r' g [] r.outputs) (flies : r.flight? f.id = some f) (placed : Placed r)
    (item : g.item = f.item) (unended : f.stage.isEnded = false)
    (agrees : r'.Agrees (lost ++ more) g)
    (loses : ∀ id ∈ more, id = f.id ∧ g.stage = .ended none ∧
      ∃ status output, r.Recorded f.id [.start, .stop status] output)
    (h : Booked r lost) : Booked r' (lost ++ more) := by
  refine shift.booked flies placed item unended (fun _ _ => rfl) (fun _ _ => rfl) h.outputs agrees
    ?_ h
  intro id hid
  obtain ⟨heq, hended, status, output, hrecorded⟩ := loses id hid
  refine ⟨heq, hended, status, output, hrecorded.of_eq ?_ (by rw [shift.outputs])⟩
  rw [shift.told]
  exact List.append_nil _

/-- What is on record of a step after one event about it. -/
theorem Shift.recorded {r r' : Run} {f g : Flight} {e : RunEvent} {outputs : Outputs}
    {notices : List Notice} {notice : Notice} {output : Option Output}
    (shift : Shift r r' g [e] outputs) (tells : e.noticeOf f.id = some notice)
    (h : r.told f.id = notices) (given : outputs.get? f.id = output) :
    r'.Recorded f.id (notices ++ [notice]) output := by
  refine ⟨?_, by rw [shift.outputs]; exact given⟩
  rw [shift.told, h, List.filterMap_cons_some tells]
  rfl

/-- A step that is told to have stopped. -/
theorem Shift.booked_stopped {r r' : Run} {f g : Flight} {status : StepStatus} {failure : Failure}
    {lost : List String} {now : Nat}
    (shift : Shift r r' g [.stopped f.item status failure (f.stop now status failure).micros]
      r.outputs)
    (flies : r.flight? f.id = some f) (placed : Placed r) (item : g.item = f.item)
    {givenUp : Bool} (stage : g.stage = .closing (f.stop now status failure) givenUp)
    (fails : status ≠ .success) (underway : f.stage.isUnderway = true) (h : Booked r lost) :
    Booked r' lost := by
  have hbegun := (h.flights f (flight?_mem flies)).of_isUnderway underway
  have hid : g.id = f.id := by unfold Flight.id; rw [item]
  have htells : RunEvent.noticeOf f.id
      (.stopped f.item status failure (f.stop now status failure).micros) = some (.stop status) :=
    if_pos rfl
  rw [← List.append_nil lost]
  refine shift.booked flies placed item ?_ ?_ (fun _ _ => rfl) h.outputs ?_ (by simp) h
  · cases hstage : f.stage <;> rw [hstage] at underway <;> first | rfl | cases underway
  · intro id hne
    exact List.filterMap_cons_none (RunEvent.noticeOf_of_ne rfl hne)
  · unfold Agrees
    rw [stage, hid]
    show r'.Recorded f.id [.start, .stop status] (f.stop now status failure).given
    -- a step that stops speaks of no output, and none was recorded
    rw [show (f.stop now status failure).given = none from if_neg fails]
    exact shift.recorded htells hbegun.1 hbegun.2

theorem Move.booked {r r' : Run} {f : Flight} {lost : List String} (move : Move r r' f)
    (flies : r.flight? f.id = some f) (placed : Placed r) (h : Booked r lost) : Booked r' lost := by
  have hagrees := h.flights f (flight?_mem flies)
  cases move with
  | opens due stage shift =>
    have hqueued := hagrees.of_queued stage
    rw [← List.append_nil lost]
    refine shift.booked flies placed rfl (by rw [stage]; rfl) ?_ (fun _ _ => rfl) h.outputs ?_
      (by simp) h
    · intro id hne
      exact List.filterMap_cons_none (RunEvent.noticeOf_of_ne rfl hne)
    · exact shift.recorded (if_pos rfl) hqueued.1 hqueued.2
  | prepares due input connector stage built found timed shift =>
    have hbegun := hagrees.of_isUnderway (by rw [stage]; rfl)
    rw [← List.append_nil lost]
    refine shift.booked_silent flies placed rfl (by rw [stage]; rfl) ?_ (by simp) h
    exact hbegun.of_eq (by rw [shift.told]; exact List.append_nil _) (by rw [shift.outputs])
  | calls due input connector overdue stage shift =>
    have hbegun := hagrees.of_isUnderway (by rw [stage]; rfl)
    rw [← List.append_nil lost]
    refine shift.booked_silent flies placed rfl (by rw [stage]; rfl) ?_ (by simp) h
    exact hbegun.of_eq (by rw [shift.told]; exact List.append_nil _) (by rw [shift.outputs])
  | fails due failure why shift =>
    exact shift.booked_stopped flies placed rfl rfl (by simp) why.isUnderway h
  | succeeds due call overdue output seen outputs stage answer copyable recorded shift =>
    have hbegun := hagrees.of_isUnderway (by rw [stage]; rfl)
    obtain ⟨hsteps, hnew⟩ := Outputs.steps_record recorded
    rw [← List.append_nil lost]
    refine shift.booked flies placed rfl (by rw [stage]; rfl) ?_ ?_ ?_ ?_ (by simp) h
    · intro id hne
      exact List.filterMap_cons_none (RunEvent.noticeOf_of_ne rfl hne)
    · intro id hne
      rw [Outputs.get?_record recorded, if_neg hne]
    · rw [hsteps]
      exact List.nodup_append'.2 ⟨h.outputs, List.nodup_singleton _,
        fun id hid hid' => hnew (List.mem_singleton.1 hid' ▸ hid)⟩
    · refine shift.recorded (if_pos rfl) hbegun.1 ?_
      rw [Outputs.get?_record recorded, if_pos rfl]
      rfl
  | ends report stage shift =>
    have hclosing := hagrees.of_report? (x := report) (by rw [stage]; rfl)
    rw [← List.append_nil lost]
    refine shift.booked_silent flies placed rfl (by rw [stage]; rfl) ?_ (by simp) h
    exact hclosing.of_eq (by rw [shift.told]; exact List.append_nil _) (by rw [shift.outputs])

theorem Cut.booked {r r' : Run} {f : Flight} {lost : List String} (cut : Cut r r' f)
    (flies : r.flight? f.id = some f) (placed : Placed r) (h : Booked r lost) :
    Booked r' (lost ++ if f.stage.isClosing then [f.id] else []) := by
  have hagrees := h.flights f (flight?_mem flies)
  cases cut with
  | past stage same =>
    have hclosing : f.stage.isClosing = false := by
      cases hstage : f.stage <;> rw [hstage] at stage <;> first | rfl | cases stage
    rw [hclosing, same]
    simpa using ({ h with } : Booked (r.dropTurn f.id) lost)
  | drops stage shift =>
    have hqueued := hagrees.of_queued stage
    rw [show f.stage.isClosing = false by rw [stage]; rfl]
    refine shift.booked_silent flies placed rfl (by rw [stage]; rfl) (.inl ?_) (by simp) h
    exact hqueued.of_eq (by rw [shift.told]; exact List.append_nil _) (by rw [shift.outputs])
  | loses report givenUp stage shift =>
    have hclosing := hagrees.of_report? (x := report) (by rw [stage]; rfl)
    rw [show f.stage.isClosing = true by rw [stage]; rfl]
    -- the records still speak of the end of the step, while it goes without its report
    refine shift.booked_silent flies placed rfl (by rw [stage]; rfl) (.inr ?_) ?_ h
    · exact List.mem_append_right _ (List.mem_singleton_self _)
    · intro id hid
      exact ⟨List.mem_singleton.1 hid, rfl, _, _, hclosing⟩
  | stops due stage shift =>
    have hunderway : f.stage.isUnderway = true ∧ f.stage.isClosing = false := by
      rcases stage with ⟨givenUp, stage⟩ | ⟨input, connector, stage⟩ | ⟨call, overdue, stage⟩
      · rw [stage]; exact ⟨rfl, rfl⟩
      · rw [stage]; exact ⟨rfl, rfl⟩
      · rw [stage]; exact ⟨rfl, rfl⟩
    rw [hunderway.2, if_neg Bool.false_ne_true, List.append_nil]
    refine shift.booked_stopped flies placed rfl rfl ?_ hunderway.1 h
    unfold interruption
    cases r.expired with
    | some failure => simp
    | none => simp

/-- A report that is taken out of flight stays on record. -/
theorem Booked.collect {r : Run} {lost : List String} (placed : Placed r) (h : Booked r lost) :
    Booked r.collect lost := by
  have hover : ∀ x ∈ r.overReports, ∃ f ∈ r.flights, f.stage = .ended (some x) ∧ f.id = x.id := by
    intro x hx
    obtain ⟨f, hf, hstage, hitem⟩ := placed.mem_overReports hx
    exact ⟨f, hf, hstage, by unfold Flight.id Report.id; rw [hitem]⟩
  rw [collect_eq]
  refine
    { outputs := h.outputs, waiting := h.waiting, flights := ?_, reports := ?_, begun := h.begun,
      gone := ?_, cut := ?_, others := ?_ }
  · intro f hf
    exact h.flights f (List.mem_of_mem_filter hf)
  · intro x hx
    rcases List.mem_append.1 hx with hx | hx
    · exact h.reports x hx
    · obtain ⟨f, hf, hstage, hid⟩ := hover x hx
      rw [← hid]
      exact (h.flights f hf).of_report? (by rw [hstage]; rfl)
  · intro id hid
    obtain ⟨hwaits, hreported⟩ := h.gone id hid
    refine ⟨hwaits, ?_⟩
    unfold reportIds
    rw [List.map_append, List.mem_append, not_or]
    refine ⟨hreported, ?_⟩
    intro hmem
    obtain ⟨x, hx, rfl⟩ := List.mem_map.1 hmem
    obtain ⟨f, hf, hstage, hfid⟩ := hover x hx
    -- a step whose report was lost has none to be taken
    rw [h.cut x.id hid f hf hfid] at hstage
    cases hstage
  · intro id hid f hf
    exact h.cut id hid f (List.mem_of_mem_filter hf)
  · intro id hw hf hr hl
    unfold reportIds at hr
    rw [List.map_append, List.mem_append, not_or] at hr
    by_cases hflies : id ∈ r.flightIds
    · -- a step in flight no more and not reported was interrupted before its start was told
      obtain ⟨f, hmem, rfl⟩ := List.mem_map.1 hflies
      cases hended : f.stage.isEnded with
      | false =>
        have hkept : f ∈ r.flights.filter fun f => !f.stage.isEnded :=
          List.mem_filter.2 ⟨hmem, by rw [hended]; rfl⟩
        exact absurd (List.mem_map_of_mem hkept) hf
      | true =>
        have hagrees := h.flights f hmem
        unfold Agrees at hagrees
        cases hstage : f.stage with
        | ended report =>
          rw [hstage] at hagrees
          cases report with
          | none => exact hagrees.resolve_right hl
          | some x =>
            have hx : x ∈ r.overReports :=
              List.mem_filterMap.2 ⟨f, hmem, by rw [hstage]; rfl⟩
            have hitem := placed.own f hmem x (by rw [hstage]; rfl)
            refine absurd (List.mem_map.2 ⟨x, hx, ?_⟩) hr.2
            unfold Report.id Flight.id
            rw [hitem]
        | _ => rw [hstage] at hended; cases hended
    · exact h.others id hw hflies hr.1 hl

theorem Booked.launch {r : Run} {lost : List String} {s : PipelineStep} (hs : s ∈ r.waiting)
    (h : Booked r lost) : Booked (r.launch s) lost := by
  have hid : s.step.id ∈ r.waitingIds := List.mem_map_of_mem hs
  refine
    { outputs := h.outputs, waiting := ?_, flights := ?_, reports := h.reports, begun := h.begun,
      gone := ?_, cut := ?_, others := ?_ }
  · intro id hw
    exact h.waiting id (mem_waitingIds_launch.1 hw).1
  · intro f hf
    rcases List.mem_append.1 hf with hf | hf
    · exact h.flights f hf
    · rw [List.mem_singleton.1 hf]
      exact h.waiting _ hid
  · intro id hl
    obtain ⟨hwaits, hreported⟩ := h.gone id hl
    exact ⟨fun hw => hwaits (mem_waitingIds_launch.1 hw).1, hreported⟩
  · intro id hl f hf hfid
    rcases List.mem_append.1 hf with hf | hf
    · exact h.cut id hl f hf hfid
    · rw [List.mem_singleton.1 hf] at hfid
      refine absurd hid (h.gone _ ?_).1
      rw [show s.step.id = id from hfid]
      exact hl
  · intro id hw hf hr hl
    rw [flightIds_launch, List.mem_append, not_or, List.mem_singleton] at hf
    exact h.others id (fun hmem => hw (mem_waitingIds_launch.2 ⟨hmem, hf.2⟩)) hf.1 hr hl

/-- Every change keeps the records straight, but for the reports that it loses. -/
theorem Booked.change {r r' : Run} {lost more : List String} (placed : Placed r)
    (h : Booked r lost) (change : Change r r' more) : Booked r' (lost ++ more) := by
  cases change with
  | stirs stir => simpa using stir.toAlike.booked h
  | moves flies move => simpa using move.booked flies placed h
  | cuts called flies cut => exact cut.booked flies placed h
  | heeds running asked => simpa using ({ h with } : Booked { r with heeded := true } lost)
  | collects running => simpa using h.collect placed
  | launches running may first => simpa using h.launch (List.mem_of_find?_eq_some first)
  | concludes running idle stuck => simpa using (conclude_alike r).booked h
  | closes phase => simpa using (close_alike r _).booked h

/-- Nothing is on record of a step that is neither in flight nor reported, unless its report was
lost. -/
theorem Booked.recorded_of_idle {r : Run} {lost : List String} (h : Booked r lost)
    (idle : r.flights = []) {id : String} (unreported : id ∉ r.reportIds) (kept : id ∉ lost) :
    r.Recorded id [] none := by
  by_cases hwaits : id ∈ r.waitingIds
  · exact h.waiting id hwaits
  · refine h.others id hwaits ?_ unreported kept
    rw [flightIds_eq_nil idle]
    exact List.not_mem_nil

/-- A step that is reported to have succeeded has an output. -/
theorem Booked.has_of_report {r : Run} {lost : List String} (h : Booked r lost) {x : Report}
    (hx : x ∈ r.reports) (status : x.status = .success) : r.outputs.has x.id = true := by
  unfold Outputs.has
  rw [(h.reports x hx).2]
  unfold Report.given
  rw [if_pos status]
  rfl

end Run

end Conduit

import Conduit.Proofs.Pipeline.Coverage
import Conduit.Proofs.Run.Independence

/-!
# Steps that wait for others

A step is begun after all steps that it depends on have succeeded: the events tell these successes
first, their outputs are there when its input is built, and by the clock they ended no later than it
began. The output of the run, too, reads nothing that is not there.

* `RunEvent.AtStarts` — what holds whenever a step begins;
* `RunEvent.InOrder` — starts after the successes that they wait for;
* `Run.Sequenced` — the invariant, with `Run.Sequenced.change`;
* `Run.Waits`, `Run.waits_performAll` — what follows for runs and their results.
-/

namespace Conduit

/-! ## Events in order -/

namespace RunEvent

/-- What comes before the start of a step among some events, and the step, have a property. -/
def AtStarts (P : List RunEvent → PipelineStep → Prop) (events : List RunEvent) : Prop :=
  ∀ front s back, events = front ++ .started s :: back → P front s

section

variable {P : List RunEvent → PipelineStep → Prop} {events : List RunEvent}

theorem AtStarts.nil : AtStarts P [] := by
  intro front s back h
  exact absurd h.symm (by simp)

/-- An event may be added at the end, if it is no start or the property holds of it. -/
theorem AtStarts.concat {e : RunEvent} (h : AtStarts P events)
    (hlast : ∀ s, e = .started s → P events s) : AtStarts P (events ++ [e]) := by
  intro front s back hsplit
  rcases List.eq_nil_or_concat back with rfl | ⟨back, last, rfl⟩
  · obtain ⟨rfl, hs⟩ := List.append_inj' hsplit rfl
    exact hlast s (by simpa using hs)
  · rw [List.concat_eq_append, ← List.cons_append, ← List.append_assoc] at hsplit
    obtain ⟨rfl, -⟩ := List.append_inj' hsplit rfl
    exact h front s back rfl

/-- Events that are no starts may be added at the end. -/
theorem AtStarts.append (h : AtStarts P events) (more : List RunEvent)
    (no_start : ∀ s, .started s ∉ more) : AtStarts P (events ++ more) := by
  induction more generalizing events with
  | nil => rwa [List.append_nil]
  | cons e rest ih =>
    rw [List.append_cons]
    refine ih (h.concat fun s hs => ?_) fun s hs => no_start s (List.mem_cons_of_mem _ hs)
    exact absurd (hs ▸ List.mem_cons_self) (no_start s)

end

/-- In a list of events the start of a step comes after the successes of all steps that it depends
on. -/
def InOrder (events : List RunEvent) : Prop :=
  ∀ front s back, events = front ++ .started s :: back → ∀ id ∈ s.dependsOn,
    ∃ t output micros, t.step.id = id ∧ .completed t output micros ∈ front

theorem InOrder.nil : InOrder [] := AtStarts.nil

/-- An event may be added at the end, if it is no start or all that the step depends on succeeded
before. -/
theorem InOrder.concat {events : List RunEvent} {e : RunEvent} (h : InOrder events)
    (hlast : ∀ s, e = .started s → ∀ id ∈ s.dependsOn,
      ∃ t output micros, t.step.id = id ∧ .completed t output micros ∈ events) :
    InOrder (events ++ [e]) := AtStarts.concat h hlast

/-- Events that are no starts may be added at the end. -/
theorem InOrder.append {events : List RunEvent} (h : InOrder events) (more : List RunEvent)
    (no_start : ∀ s, .started s ∉ more) : InOrder (events ++ more) :=
  AtStarts.append h more no_start

end RunEvent

namespace Run

open RunEvent

/-! ## The invariant -/

/-- A step is reported to have succeeded by a reading of the clock. -/
def SucceededBy (r : Run) (id : String) (time : Nat) : Prop :=
  ∃ y ∈ r.reports, y.id = id ∧ y.status = .success ∧ y.endedAt ≤ time

/-- Steps begin after the successes that they depend on, in the events and by the clock. -/
structure Sequenced (r : Run) : Prop where
  past : ∀ x ∈ r.reports, x.endedAt ≤ r.now
  ending : ∀ f ∈ r.flights, ∀ x, f.stage.report? = some x →
    x.startedAt = f.startedAt ∧ x.endedAt ≤ r.now
  flights : ∀ f ∈ r.flights, ∀ id ∈ f.item.dependsOn, r.SucceededBy id f.startedAt
  reports : ∀ x ∈ r.reports, ∀ id ∈ x.item.dependsOn, r.SucceededBy id x.startedAt
  stopped : ∀ s status failure micros, .stopped s status failure micros ∈ r.events →
    status ≠ .success
  order : InOrder r.events
  outputs : ∀ id, r.outputs.has id = true → id ∈ r.plan.pipeline.stepIds

theorem SucceededBy.mono {r r' : Run} {id : String} {time : Nat} (h : r.SucceededBy id time)
    (reports : ∀ y ∈ r.reports, y ∈ r'.reports) : r'.SucceededBy id time := by
  obtain ⟨y, hy, hrest⟩ := h
  exact ⟨y, reports y hy, hrest⟩

/-- What a step in flight depends on has succeeded by now. -/
theorem Sequenced.succeededBy_now {r : Run} (h : Sequenced r) (judged : Judged r) {f : Flight}
    (hf : f ∈ r.flights) : ∀ id ∈ f.item.dependsOn, r.SucceededBy id r.now := by
  intro id hid
  have hsucceeded := judged.released f hf id hid
  rw [judged.succeeded] at hsucceeded
  obtain ⟨y, hy, rfl⟩ := List.mem_map.1 hsucceeded
  obtain ⟨hy, hstatus⟩ := List.mem_filter.1 hy
  exact ⟨y, hy, rfl, by simpa using hstatus, h.past y hy⟩

/-- The success of a step that is reported was told. -/
theorem Sequenced.completed_mem {r : Run} {lost : List String} (h : Sequenced r)
    (booked : Booked r lost) {id : String} {time : Nat} (succeeded : r.SucceededBy id time) :
    ∃ t output micros, t.step.id = id ∧ .completed t output micros ∈ r.events := by
  obtain ⟨y, hy, rfl, hstatus, -⟩ := succeeded
  have hstop : .stop .success ∈ r.told y.id := by
    rw [(booked.reports y hy).1, hstatus]
    exact List.mem_cons_of_mem _ List.mem_cons_self
  unfold told at hstop
  obtain ⟨e, he, hnotice⟩ := List.mem_filterMap.1 hstop
  cases e with
  | started s => simp [noticeOf] at hnotice
  | completed t output micros =>
    have hid : t.step.id = y.id := by simpa [noticeOf] using hnotice
    exact ⟨t, output, micros, hid, he⟩
  | stopped s status failure micros =>
    -- a stop that is told is no success
    have hsuccess : s.step.id = y.id ∧ status = .success := by simpa [noticeOf] using hnotice
    exact absurd hsuccess.2 (h.stopped _ _ _ _ he)
  | done result => cases hnotice

theorem Alike.sequenced {r r' : Run} (alike : Alike r r') (h : Sequenced r) : Sequenced r' := by
  have hsucceeded : ∀ id time, r.SucceededBy id time → r'.SucceededBy id time :=
    fun id time hby => hby.mono fun y hy => by rw [alike.reports]; exact hy
  refine
    { past := ?_, ending := ?_, flights := ?_, reports := ?_, stopped := ?_, order := ?_,
      outputs := by rw [alike.outputs, alike.plan]; exact h.outputs }
  · intro x hx
    rw [alike.reports] at hx
    exact Nat.le_trans (h.past x hx) alike.now
  · intro f' hf x hx
    obtain ⟨f, hf, -, hstarted, hstage⟩ := alike.mem_flights hf
    obtain ⟨hx, hended⟩ := h.ending f hf x (hstage ▸ hx)
    exact ⟨hx.trans hstarted.symm, Nat.le_trans hended alike.now⟩
  · intro f' hf id hid
    obtain ⟨f, hf, hitem, hstarted, -⟩ := alike.mem_flights hf
    rw [hstarted]
    exact hsucceeded _ _ (h.flights f hf id (hitem ▸ hid))
  · intro x hx id hid
    rw [alike.reports] at hx
    exact hsucceeded _ _ (h.reports x hx id hid)
  · intro s status failure micros hmem
    rcases alike.events with hsame | ⟨result, hmore⟩
    · rw [hsame] at hmem
      exact h.stopped _ _ _ _ hmem
    · rw [hmore, List.mem_append] at hmem
      exact h.stopped _ _ _ _ (hmem.resolve_right (by simp))
  · rcases alike.events with hsame | ⟨result, hmore⟩
    · rw [hsame]
      exact h.order
    · rw [hmore]
      exact h.order.concat (by simp)

/-- A shift keeps the order, if the step begins after what it depends on and what is told of it is
in order. -/
theorem Shift.sequenced {r r' : Run} {f g : Flight} {told : List RunEvent} {outputs : Outputs}
    (shift : Shift r r' g told outputs) (flies : r.flight? f.id = some f) (item : g.item = f.item)
    (began : ∀ id ∈ f.item.dependsOn, r.SucceededBy id g.startedAt)
    (ending : ∀ x, g.stage.report? = some x → x.startedAt = g.startedAt ∧ x.endedAt ≤ r.now)
    (stopped : ∀ s status failure micros, .stopped s status failure micros ∈ told →
      status ≠ .success)
    (order : InOrder (r.events ++ told))
    (known : ∀ id, outputs.has id = true → r.outputs.has id = true ∨ id = f.id)
    (placed : Placed r) (h : Sequenced r) : Sequenced r' := by
  have hsucceeded : ∀ id time, r.SucceededBy id time → r'.SucceededBy id time :=
    fun id time hby => hby.mono fun y hy => by rw [shift.reports]; exact hy
  refine
    { past := ?_, ending := ?_, flights := ?_, reports := ?_, stopped := ?_,
      order := by rw [shift.events]; exact order, outputs := ?_ }
  · intro x hx
    rw [shift.reports] at hx
    rw [shift.now]
    exact h.past x hx
  · intro e he x hx
    rw [shift.now]
    rcases shift.mem_flights he with rfl | ⟨he, -⟩
    · exact ending x hx
    · exact h.ending e he x hx
  · intro e he id hid
    rcases shift.mem_flights he with rfl | ⟨he, -⟩
    · exact hsucceeded _ _ (began id (item ▸ hid))
    · exact hsucceeded _ _ (h.flights e he id hid)
  · intro x hx id hid
    rw [shift.reports] at hx
    exact hsucceeded _ _ (h.reports x hx id hid)
  · intro s status failure micros hmem
    rw [shift.events, List.mem_append] at hmem
    rcases hmem with hmem | hmem
    · exact h.stopped _ _ _ _ hmem
    · exact stopped _ _ _ _ hmem
  · intro id hhas
    rw [shift.outputs] at hhas
    rw [shift.plan]
    rcases known id hhas with hhas | rfl
    · exact h.outputs id hhas
    · exact List.mem_map_of_mem (placed.flying f (flight?_mem flies))

/-- A shift in silence keeps the order. -/
theorem Shift.sequenced_silent {r r' : Run} {f g : Flight}
    (shift : Shift r r' g [] r.outputs) (flies : r.flight? f.id = some f) (item : g.item = f.item)
    (began : g.startedAt = f.startedAt)
    (ending : ∀ x, g.stage.report? = some x → f.stage.report? = some x) (placed : Placed r)
    (h : Sequenced r) : Sequenced r' := by
  have hf := flight?_mem flies
  refine shift.sequenced flies item ?_ ?_ (by simp) (by rw [List.append_nil]; exact h.order)
    (fun _ hhas => .inl hhas) placed h
  · rw [began]
    exact h.flights f hf
  · intro x hx
    rw [began]
    exact h.ending f hf x (ending x hx)

/-- A shift that tells the end of a step keeps the order. -/
theorem Shift.sequenced_ended {r r' : Run} {f g : Flight} {e : RunEvent} {outputs : Outputs}
    {x : Report} {givenUp : Bool} (shift : Shift r r' g [e] outputs)
    (flies : r.flight? f.id = some f) (item : g.item = f.item)
    (began : g.startedAt = f.startedAt) (stage : g.stage = .closing x givenUp)
    (report : x.startedAt = f.startedAt ∧ x.endedAt = r.now) (no_start : ∀ s, e ≠ .started s)
    (stopped : ∀ s status failure micros, e = .stopped s status failure micros →
      status ≠ .success)
    (known : ∀ id, outputs.has id = true → r.outputs.has id = true ∨ id = f.id)
    (placed : Placed r) (h : Sequenced r) : Sequenced r' := by
  refine shift.sequenced flies item ?_ ?_ ?_ ?_ known placed h
  · rw [began]
    exact h.flights f (flight?_mem flies)
  · intro y hy
    rw [stage] at hy
    cases hy
    exact ⟨report.1.trans began.symm, Nat.le_of_eq report.2⟩
  · intro s status failure micros hmem
    exact stopped s status failure micros (List.mem_singleton.1 hmem).symm
  · exact h.order.concat fun s hs => absurd hs (no_start s)

theorem Move.sequenced {r r' : Run} {f : Flight} {lost : List String} (move : Move r r' f)
    (flies : r.flight? f.id = some f) (sound : Sound r lost) (h : Sequenced r) : Sequenced r' := by
  have hplaced := sound.placed
  cases move with
  | opens due stage shift =>
    -- the step begins now, and all that it depends on has succeeded and was told to have
    have hnow := h.succeededBy_now sound.judged (flight?_mem flies)
    refine shift.sequenced flies rfl hnow (by simp [Stage.report?]) (by simp) ?_
      (fun _ hhas => .inl hhas) hplaced h
    refine h.order.concat fun s hs id hid => ?_
    cases hs
    exact h.completed_mem sound.booked (hnow id hid)
  | prepares due input connector stage built found timed shift =>
    exact shift.sequenced_silent flies rfl rfl (by simp [Stage.report?]) hplaced h
  | calls due input connector overdue stage shift =>
    exact shift.sequenced_silent flies rfl rfl (by simp [Stage.report?]) hplaced h
  | fails due failure why shift =>
    refine shift.sequenced_ended flies rfl rfl rfl ⟨rfl, rfl⟩ (by simp) ?_
      (fun _ hhas => .inl hhas) hplaced h
    rintro s status failure micros ⟨⟩
    simp
  | succeeds due call overdue output seen outputs stage answer copyable recorded shift =>
    refine shift.sequenced_ended flies rfl rfl rfl ⟨rfl, rfl⟩ (by simp) (by simp) ?_ hplaced h
    intro id hhas
    unfold Outputs.has at hhas ⊢
    rw [Outputs.get?_record recorded] at hhas
    split at hhas
    · next hid => exact .inr hid
    · exact .inl hhas
  | ends report stage shift =>
    refine shift.sequenced_silent flies rfl rfl ?_ hplaced h
    rintro x ⟨⟩
    rw [stage]
    rfl

theorem Cut.sequenced {r r' : Run} {f : Flight} (cut : Cut r r' f)
    (flies : r.flight? f.id = some f) (placed : Placed r) (h : Sequenced r) : Sequenced r' := by
  cases cut with
  | past stage same =>
    rw [same]
    exact { h with }
  | drops stage shift =>
    exact shift.sequenced_silent flies rfl rfl (by simp [Stage.report?]) placed h
  | loses report givenUp stage shift =>
    exact shift.sequenced_silent flies rfl rfl (by simp [Stage.report?]) placed h
  | stops due stage shift =>
    refine shift.sequenced_ended flies rfl rfl rfl ⟨rfl, rfl⟩ (by simp) ?_
      (fun _ hhas => .inl hhas) placed h
    rintro s status failure micros ⟨⟩
    unfold interruption
    cases r.expired with
    | some failure => simp
    | none => simp

theorem Sequenced.collect {r : Run} (placed : Placed r) (h : Sequenced r) :
    Sequenced r.collect := by
  rw [collect_eq]
  have hsucceeded : ∀ id time, r.SucceededBy id time →
      ∃ y ∈ r.reports ++ r.overReports, y.id = id ∧ y.status = .success ∧ y.endedAt ≤ time := by
    rintro id time ⟨y, hy, hrest⟩
    exact ⟨y, List.mem_append_left _ hy, hrest⟩
  -- a report that is taken out of flight has the times of its step
  have hover : ∀ x ∈ r.overReports, x.endedAt ≤ r.now ∧
      ∀ id ∈ x.item.dependsOn, r.SucceededBy id x.startedAt := by
    intro x hx
    obtain ⟨f, hf, hstage, hitem⟩ := placed.mem_overReports hx
    obtain ⟨hstarted, hended⟩ := h.ending f hf x (by rw [hstage]; rfl)
    rw [hstarted, hitem]
    exact ⟨hended, h.flights f hf⟩
  refine
    { past := ?_, ending := fun f hf => h.ending f (List.mem_of_mem_filter hf), flights := ?_,
      reports := ?_, stopped := h.stopped, order := h.order, outputs := h.outputs }
  · intro x hx
    rcases List.mem_append.1 hx with hx | hx
    · exact h.past x hx
    · exact (hover x hx).1
  · intro f hf id hid
    exact hsucceeded id _ (h.flights f (List.mem_of_mem_filter hf) id hid)
  · intro x hx id hid
    rcases List.mem_append.1 hx with hx | hx
    · exact hsucceeded id _ (h.reports x hx id hid)
    · exact hsucceeded id _ ((hover x hx).2 id hid)

theorem Sequenced.launch {r : Run} {s : PipelineStep} (judged : Judged (r.launch s))
    (h : Sequenced r) : Sequenced (r.launch s) := by
  refine
    { past := h.past, ending := ?_, flights := ?_, reports := h.reports, stopped := h.stopped,
      order := h.order, outputs := h.outputs }
  · intro f hf x hx
    rcases List.mem_append.1 hf with hf | hf
    · exact h.ending f hf x hx
    · rw [List.mem_singleton.1 hf] at hx
      cases hx
  · intro f hf id hid
    rcases List.mem_append.1 hf with hold | hnew
    · exact h.flights f hold id hid
    · -- a step that is put in flight may go, so all that it depends on has succeeded
      have hsucceeded : id ∈ r.succeeded := judged.released f hf id hid
      rw [show r.succeeded = _ from judged.succeeded] at hsucceeded
      obtain ⟨y, hy, hyid⟩ := List.mem_map.1 hsucceeded
      obtain ⟨hy, hstatus⟩ := List.mem_filter.1 hy
      rw [List.mem_singleton.1 hnew]
      exact ⟨y, hy, hyid, by simpa using hstatus, h.past y hy⟩

/-- Every change keeps the order. -/
theorem Sequenced.change {r r' : Run} {lost more : List String} (sound : Sound r lost)
    (h : Sequenced r) (change : Change r r' more) : Sequenced r' := by
  have hjudged := (sound.change change).judged
  cases change with
  | stirs stir => exact stir.toAlike.sequenced h
  | moves flies move => exact move.sequenced flies sound h
  | cuts called flies cut => exact cut.sequenced flies sound.placed h
  | heeds running asked => exact { h with }
  | collects running => exact h.collect sound.placed
  | launches running may first => exact h.launch hjudged
  | concludes running idle stuck => exact (conclude_alike r).sequenced h
  | closes phase => exact (close_alike r _).sequenced h

theorem Sequenced.loaded (plan : Plan) (now : Nat) (environment : Environment)
    (reader : Option Reader) (cancelled : Bool) (inputs : Members) :
    Sequenced (loaded plan now environment reader cancelled inputs) where
  past := by simp [Run.loaded, prepare]
  ending := by simp [Run.loaded, prepare]
  flights := by simp [Run.loaded, prepare]
  reports := by simp [Run.loaded, prepare]
  stopped := by simp [Run.loaded, prepare]
  order := .nil
  outputs := by simp [Run.loaded, prepare, Outputs.has, Outputs.get?]

theorem Rests.sequenced {r : Run} {plan : Plan} {told : List RunEvent} (h : Rests r plan told)
    (ends : ∀ e ∈ told, e.isDone = true) : Sequenced r where
  past := by simp [h.reports]
  ending := by simp [h.flights]
  flights := by simp [h.flights]
  reports := by simp [h.reports]
  stopped := by
    intro s status failure micros hmem
    rw [h.events] at hmem
    cases ends _ hmem
  order := by
    intro front s back hsplit
    have hmem : .started s ∈ r.events := by simp [hsplit]
    rw [h.events] at hmem
    cases ends _ hmem
  outputs := by simp [h.outputs, Outputs.has, Outputs.get?]

/-- A run is in order in all of its history. -/
theorem Begins.sequenced {plan : Plan} {r : Run} (begins : Begins plan r) (acts : List Act) :
    Sequenced (r.performAll acts) := by
  refine begins.invariant (motive := fun q _ => Sequenced q) (.loaded plan)
    (fun _ _ hrests ends => hrests.sequenced ends) ?_ ?_ acts
  · exact fun q q' gone more hsound h change => h.change hsound change
  · exact fun q gone limit _ _ h => { h with }

/-! ## Runs that are given up -/

/-- Every step in flight has begun and no other will be put in flight. -/
structure Sealed (r : Run) : Prop where
  placed : Placed r
  begun : ∀ f ∈ r.flights, f.stage ≠ .queued
  ended : r.phase ≠ .running
  order : InOrder r.events

/-- Interrupting a step leaves only other steps that have not begun, and begins none. -/
theorem interrupt_begun {r : Run} (placed : Placed r) (order : InOrder r.events) (id : String) :
    (∀ f ∈ (r.interrupt id).flights, f.stage = .queued → f ∈ r.flights ∧ f.id ≠ id) ∧
      InOrder (r.interrupt id).events := by
  rcases interrupt_cases r id with ⟨hnone, hsame⟩ | ⟨f, hf, hcut⟩
  · rw [hsame]
    refine ⟨fun f hf _ => ⟨hf, ?_⟩, order⟩
    simpa using List.find?_eq_none.1 hnone f hf
  · have hid := flight?_id hf
    subst hid
    have hshift : ∀ g told, Shift r (r.interrupt f.id) g told r.outputs → g.id = f.id →
        g.stage ≠ .queued → (∀ s, .started s ∉ told) →
        (∀ e ∈ (r.interrupt f.id).flights, e.stage = .queued → e ∈ r.flights ∧ e.id ≠ f.id) ∧
          InOrder (r.interrupt f.id).events := by
      intro g told shift hgid hbegun hno_start
      refine ⟨fun e he hqueued => ?_, ?_⟩
      · rcases shift.mem_flights he with rfl | ⟨he, hne⟩
        · exact absurd hqueued hbegun
        · exact ⟨he, hgid ▸ hne⟩
      · rw [shift.events]
        exact order.append told hno_start
    cases hcut with
    | past stage same =>
      rw [same]
      refine ⟨fun e he hqueued => ⟨he, fun heq => ?_⟩, order⟩
      rw [← heq, placed.flight?_eq he] at hf
      cases hf
      rw [hqueued] at stage
      cases stage
    | drops stage shift => exact hshift _ _ shift rfl (by simp) (by simp)
    | loses report givenUp stage shift => exact hshift _ _ shift rfl (by simp) (by simp)
    | stops due stage shift => exact hshift _ _ shift rfl (by simp) (by simp)

/-- Interrupting steps leaves only other steps that have not begun, and begins none. -/
theorem interruptAll_begun (ids : List String) :
    ∀ r : Run, Placed r → InOrder r.events →
      (∀ f ∈ (r.interruptAll ids).flights, f.stage = .queued → f ∈ r.flights ∧ f.id ∉ ids) ∧
        Placed (r.interruptAll ids) ∧ InOrder (r.interruptAll ids).events := by
  induction ids with
  | nil => exact fun r placed order => ⟨fun f hf _ => ⟨hf, List.not_mem_nil⟩, placed, order⟩
  | cons id ids ih =>
    intro r placed order
    obtain ⟨hfirst, horder⟩ := interrupt_begun placed order id
    obtain ⟨hrest, hplaced, hall⟩ := ih (r.interrupt id) (placed.interrupt id) horder
    refine ⟨fun f hf hqueued => ?_, hplaced, hall⟩
    obtain ⟨hmem, hids⟩ := hrest f hf hqueued
    obtain ⟨hmem, hne⟩ := hfirst f hmem hqueued
    exact ⟨hmem, List.not_mem_cons_of_ne_of_not_mem hne hids⟩

/-- A run that is sealed stays so. -/
theorem Sealed.change {r r' : Run} {lost : List String} (h : Sealed r)
    (change : Change r r' lost) : Sealed r' := by
  have hplaced := h.placed.change change
  -- a shift in which no step begins
  have hshift : ∀ g told outputs, Shift r r' g told outputs → g.stage ≠ .queued →
      (∀ s, .started s ∉ told) → Sealed r' := by
    intro g told outputs shift hbegun hno_start
    refine ⟨hplaced, fun e he => ?_, by rw [shift.phase]; exact h.ended, by
      rw [shift.events]; exact h.order.append told hno_start⟩
    rcases shift.mem_flights he with rfl | ⟨he, -⟩
    · exact hbegun
    · exact h.begun e he
  cases change with
  | stirs stir =>
    refine ⟨hplaced, fun f' hf => ?_, fun hrunning => ?_, by rw [stir.quiet]; exact h.order⟩
    · obtain ⟨f, hf, -, -, hstage⟩ := stir.mem_flights hf
      rw [hstage]
      exact h.begun f hf
    · have hbare := stir.phase
      rw [hrunning] at hbare
      exact h.ended (Phase.eq_running_of_bare hbare.symm)
  | moves flies move =>
    cases move with
    | opens due stage shift => exact absurd stage (h.begun _ (flight?_mem flies))
    | prepares due input connector stage built found timed shift =>
      exact hshift _ _ _ shift (by simp) (by simp)
    | calls due input connector overdue stage shift => exact hshift _ _ _ shift (by simp) (by simp)
    | fails due failure why shift => exact hshift _ _ _ shift (by simp) (by simp)
    | succeeds due call overdue output seen outputs stage answer copyable recorded shift =>
      exact hshift _ _ _ shift (by simp) (by simp)
    | ends report stage shift => exact hshift _ _ _ shift (by simp) (by simp)
  | cuts called flies cut =>
    cases cut with
    | past stage same =>
      rw [same]
      exact { h with placed := { h.placed with } }
    | drops stage shift => exact hshift _ _ _ shift (by simp) (by simp)
    | loses report givenUp stage shift => exact hshift _ _ _ shift (by simp) (by simp)
    | stops due stage shift => exact hshift _ _ _ shift (by simp) (by simp)
  | heeds running asked => exact absurd running h.ended
  | collects running => exact absurd running h.ended
  | launches running may first => exact absurd running h.ended
  | concludes running idle stuck => exact absurd running h.ended
  | closes phase => exact ⟨hplaced, h.begun, by simp [close], h.order⟩

/-- A run that is sealed stays so in all of its history. -/
theorem Sealed.performAll {r : Run} (h : Sealed r) (acts : List Act) :
    Sealed (r.performAll acts) := by
  refine performAll_induction acts h fun q a hq => ?_
  refine perform_induction (motive := fun q _ => Sealed q) [] a hq.placed.flies_once hq
    (fun _ _ _ _ hq change => hq.change change) ?_
  -- a time limit is reached only while the run is running
  intro limit _ hreached
  exact absurd (busy_of_limitReached? hreached).2.2.2.1 hq.ended

/-- A run that is over is sealed when all that is in flight was interrupted. -/
theorem Sealed.interruptAll {r : Run} (placed : Placed r) (order : InOrder r.events) :
    Sealed ((r.interruptAll (r.flights.map Flight.id)).close .abandoned) := by
  obtain ⟨hbegun, hplaced, horder⟩ := interruptAll_begun (r.flights.map Flight.id) r placed order
  refine ⟨{ hplaced with }, fun f hf hqueued => ?_, by simp [close], horder⟩
  obtain ⟨hmem, hnot⟩ := hbegun f hf hqueued
  exact hnot (List.mem_map_of_mem hmem)

/-- A run that is given up is sealed. -/
theorem Sealed.abandon {r : Run} (placed : Placed r) (order : InOrder r.events)
    (idle : r.phase ≠ .running → r.flights = []) : Sealed r.abandon := by
  have hidle : r.phase ≠ .running → ∀ f ∈ r.flights, f.stage ≠ .queued := by
    intro hended f hf
    rw [idle hended] at hf
    cases hf
  cases hphase : r.phase with
  | «over» ending time =>
    have hended : r.phase ≠ .running := by simp [hphase]
    have hsame : r.abandon = r := by
      unfold Run.abandon
      rw [hphase]
    rw [hsame]
    exact ⟨placed, hidle hended, hended, order⟩
  | closing result due =>
    have hclosed : r.abandon = r.close .abandoned := by
      unfold Run.abandon
      rw [hphase]
    rw [hclosed]
    exact ⟨{ placed with }, hidle (by simp [hphase]), by simp [close], order⟩
  | running =>
    have hdrained :
        r.abandon = ((r.interruptAll (r.flights.map Flight.id)).close .abandoned).drain := by
      unfold Run.abandon
      rw [hphase]
    rw [hdrained]
    obtain ⟨_, hdrain⟩ := drain_changes ((r.interruptAll (r.flights.map Flight.id)).close .abandoned)
    exact hdrain.induction (motive := fun q _ => Sealed q) [] (.interruptAll placed order)
      fun _ _ _ _ hq change => hq.change change

/-! ## What runs wait for -/

/-- What a run has when it uses it. -/
structure Waits (r : Run) : Prop where
  /-- The start of a step is told after the successes of all steps that it depends on. -/
  told : InOrder r.events
  /-- Every output that the input of a step in flight is built from is there. -/
  inputs : ∀ f ∈ r.flights, ∀ b ∈ f.item.mapper.bindings, ∀ id index path,
    b.source = .step id index path → (r.outputs.read r.environment id).isSome = true
  /-- So is every output that the output of a run is built from that has failed in no step. -/
  output : r.failure = none → r.plan.pipeline.steps.length ≤ r.outputs.size →
    ∀ mapper, r.plan.pipeline.outputMapper = some mapper → ∀ b ∈ mapper.bindings,
      ∀ id index path, b.source = .step id index path →
        (r.outputs.read r.environment id).isSome = true
  /-- In a result no step began before the success of a step that it depends on. -/
  results : ∀ result, r.returned? = some result → ∀ s ∈ r.plan.pipeline.steps,
    ∀ x ∈ result.steps, x.step = s.step.id → ∀ id ∈ s.dependsOn,
      ∃ y ∈ result.steps, y.step = id ∧ y.status = .success ∧
        ∃ micros, y.endedAt.elapsed? x.startedAt = some micros ∧ 0 ≤ micros

/-- A step has an output to read if it has an output. -/
theorem isSome_read {o : Outputs} {id : String} (h : o.has id = true)
    (environment : Environment) : (o.read environment id).isSome = true := by
  unfold Outputs.read
  rw [Option.isSome_map]
  exact h

/-- By the clock of a plan a later reading is a later moment. -/
theorem elapsed?_moment (plan : Plan) {first last : Nat} (h : first ≤ last) :
    ∃ micros, (plan.moment first).elapsed? (plan.moment last) = some micros ∧ 0 ≤ micros := by
  unfold Plan.moment Moment.elapsed?
  cases plan.origin.offset with
  | none => exact ⟨_, rfl, by dsimp only; omega⟩
  | some offset => exact ⟨_, rfl, by dsimp only; omega⟩

/-- A run with nothing on record waits for nothing. -/
theorem Rests.waits {r : Run} {plan : Plan} {told : List RunEvent} (h : Rests r plan told)
    (sequenced : Sequenced r) (sources : ∀ mapper, r.plan.pipeline.outputMapper = some mapper →
      ∀ b ∈ mapper.bindings, ∀ id index path, b.source = .step id index path →
        id ∈ r.plan.pipeline.stepIds)
    (unreported : ∀ result, r.returned? = some result → result.steps = []) : Waits r where
  told := sequenced.order
  inputs := by simp [h.flights]
  output := by
    intro _ hsize mapper hmapper b hb id index path hsource
    -- with as many outputs as steps there are no steps, and nothing to read
    have hmem := sources mapper hmapper b hb id index path hsource
    rw [h.outputs] at hsize
    have hnil : r.plan.pipeline.steps = [] := List.length_eq_zero_iff.1 (Nat.le_zero.1 hsize)
    rw [Pipeline.stepIds, hnil] at hmem
    cases hmem
  results := by
    intro result hreturned s _ x hx
    rw [unreported result hreturned] at hx
    cases hx

/-- A sound run in order waits for all that it depends on. -/
theorem Sound.waits {r : Run} {lost : List String} (h : Sound r lost) (sequenced : Sequenced r)
    (sources : ∀ mapper, r.plan.pipeline.outputMapper = some mapper →
      ∀ b ∈ mapper.bindings, ∀ id index path, b.source = .step id index path →
        id ∈ r.plan.pipeline.stepIds) : Waits r where
  told := sequenced.order
  inputs := by
    intro f hf b hb id index path hsource
    have hdepends := h.formed.source_mem f.item (h.placed.flying f hf) b hb id index path hsource
    exact isSome_read (h.supplied hf id hdepends) _
  output := by
    intro _ hsize mapper hmapper b hb id index path hsource
    obtain ⟨s, hs, rfl⟩ := List.mem_map.1 (sources mapper hmapper b hb id index path hsource)
    exact isSome_read (h.has_of_size_le sequenced.outputs hsize s hs) _
  results := by
    intro result hreturned s hs x hx hstep id hid
    have hover : r.isOver = true := by
      unfold returned? at hreturned
      unfold isOver
      split at hreturned
      · next hphase => rw [hphase]
      · cases hreturned
    obtain ⟨hconcluded, -⟩ := ((h.standing.of_isOver hover).2.2 result).1 hreturned
    rw [steps_of_result hconcluded] at hx ⊢
    obtain ⟨report, hreport, rfl⟩ := mem_stepResults.1 hx
    have hitem : report.item = s :=
      h.formed.step_unique (h.placed.reported report hreport) hs hstep
    obtain ⟨y, hy, hyid, hstatus, hended⟩ := sequenced.reports report hreport id (hitem ▸ hid)
    exact ⟨_, mem_stepResults.2 ⟨y, hy, rfl⟩, hyid, hstatus, elapsed?_moment r.plan hended⟩

/-- In all of its history a run waits for what it depends on: steps begin after the successes that
they depend on, and outputs are there when they are read. That no step begins before its time holds
of a run that is given up as well. -/
theorem waits_performAll {plan : Plan} {r : Run} (begins : Begins plan r) (acts : List Act) :
    Waits (r.performAll acts) ∧
      ∀ more, InOrder ((r.performAll acts).abandon.performAll more).events := by
  have hsequenced := begins.sequenced acts
  have hplaced := (begins.alive.performAll acts).placed
  obtain ⟨d, schema, hcompiled⟩ := begins.compiled
  have hsources : ∀ q : Run, q.plan = plan → ∀ mapper, q.plan.pipeline.outputMapper = some mapper →
      ∀ b ∈ mapper.bindings, ∀ id index path, b.source = .step id index path →
        id ∈ q.plan.pipeline.stepIds := by
    intro q hplan mapper hmapper b hb id index path hsource
    rw [hplan] at hmapper ⊢
    exact Pipeline.source_mem_of_outputMapper hcompiled hmapper hb hsource
  cases begins.entry with
  | begun inputs accepted timed sound about fresh =>
    have hsound := sound.performAll acts
    have hplan := (sound.about_performAll acts).1.trans about.1
    refine ⟨hsound.waits hsequenced (hsources _ hplan), fun more => ?_⟩
    refine ((Sealed.abandon hplaced hsequenced.order fun hended => ?_).performAll more).order
    cases hsound.standing with
    | runs phase quiet => exact absurd phase hended
    | ends result phase rest concluded complete told accords => exact rest
    | raises trouble time phase rest concluded complete quiet => exact rest
  | refused failure rejected rests reported =>
    obtain ⟨hrests, -, hresult, -⟩ := rests.performAll acts
    refine ⟨hrests.waits hsequenced (hsources _ hrests.plan) fun result hreturned => ?_, ?_⟩
    · have hphase := result?_of_returned? hreturned
      rw [hresult, reported] at hphase
      cases hphase
      rfl
    · exact fun more =>
        ((Sealed.abandon hplaced hsequenced.order fun _ => hrests.flights).performAll more).order
  | raised fault faulty rests ended =>
    obtain ⟨hrests, -, -, hkept⟩ := rests.performAll acts
    obtain ⟨time, hover⟩ := ended
    refine ⟨hrests.waits hsequenced (hsources _ hrests.plan) fun result hreturned => ?_, ?_⟩
    · unfold returned? at hreturned
      rw [hkept _ _ hover] at hreturned
      cases hreturned
    · exact fun more =>
        ((Sealed.abandon hplaced hsequenced.order fun _ => hrests.flights).performAll more).order

/-- Two steps run side by side, and when the slow one has succeeded as well the third begins. -/
def thirdAtLast : List Act :=
  [.turn, .turn, .turn, .turn, .turn, .turn, .pass 5, .wake, .turn, .turn, .round, .pass 30, .wake,
   .turn, .turn, .round, .turn, .turn, .turn, .pass 35, .wake, .turn, .turn, .round, .turn]

theorem waits_performAll_thirdAtLast :
    (sideBySide.performAll thirdAtLast).returned?.isSome = true ∧
      Waits (sideBySide.performAll thirdAtLast) ∧
      ∀ more, InOrder ((sideBySide.performAll thirdAtLast).abandon.performAll more).events :=
  ⟨by decide +kernel, waits_performAll (joiningPlan_begins _ _ _) thirdAtLast⟩

end Run

end Conduit

import Conduit.Proofs.Run.Change
import Conduit.Proofs.Pipeline.Wiring

/-!
# Where the steps of a run are

A step of a run waits, is in flight or is reported. It is in at most one of these places, and once
in one of them.

* `Run.Placed` — the invariant;
* `Run.Placed.change` — every change keeps it.
-/

namespace Conduit

/-- The report of a step whose end is being told or was told. -/
def Stage.report? : Stage → Option Report
  | closing x _ => some x
  | ended x => x
  | _ => none

theorem Stage.report?_of_overReport? {stage : Stage} {x : Report}
    (h : stage.overReport? = some x) : stage.report? = some x ∧ stage.isEnded = true := by
  cases stage with
  | ended report => exact ⟨h, rfl⟩
  | _ => cases h

/-- The ids of the steps of a pipeline stand for the steps. -/
theorem Pipeline.WellFormed.step_unique {p : Pipeline} (h : p.WellFormed) {s t : PipelineStep}
    (hs : s ∈ p.steps) (ht : t ∈ p.steps) (hid : s.step.id = t.step.id) : s = t :=
  List.inj_on_of_nodup_map h.stepIds_nodup hs ht hid

namespace Run

/-- The ids of the steps that are reported. -/
def reportIds (r : Run) : List String := r.reports.map Report.id

/-! ## Places -/

/-- Each step of a run is in at most one place, and what is reported of it is about it. -/
structure Placed (r : Run) : Prop where
  waiting : r.waiting.Sublist r.plan.pipeline.steps
  flying : ∀ f ∈ r.flights, f.item ∈ r.plan.pipeline.steps
  reported : ∀ x ∈ r.reports, x.item ∈ r.plan.pipeline.steps
  own : ∀ f ∈ r.flights, ∀ x, f.stage.report? = some x → x.item = f.item
  waits_once : r.waitingIds.Nodup
  flies_once : r.flightIds.Nodup
  reported_once : r.reportIds.Nodup
  waits_only : ∀ id ∈ r.waitingIds, id ∉ r.flightIds ∧ id ∉ r.reportIds
  flies_only : ∀ id ∈ r.flightIds, id ∉ r.reportIds

theorem mem_flightIds {r : Run} {f : Flight} (h : f ∈ r.flights) : f.id ∈ r.flightIds :=
  List.mem_map_of_mem h

/-- A step in flight is found by its id. -/
theorem Placed.flight?_eq {r : Run} (h : Placed r) {f : Flight} (hf : f ∈ r.flights) :
    r.flight? f.id = some f := by
  cases hfind : r.flight? f.id with
  | none => exact absurd (List.find?_eq_none.1 hfind f hf) (by simp)
  | some g =>
    rw [List.inj_on_of_nodup_map h.flies_once (flight?_mem hfind) hf (flight?_id hfind)]

/-- A run alike has the same steps in flight, but for the readings of the clock. -/
theorem Alike.mem_flights {r r' : Run} (h : Alike r r') {f' : Flight} (hf : f' ∈ r'.flights) :
    ∃ f ∈ r.flights, f'.item = f.item ∧ f'.startedAt = f.startedAt ∧ f'.stage = f.stage := by
  have hbare : f'.bare ∈ r.flights.map Flight.bare := h.flights ▸ List.mem_map_of_mem hf
  obtain ⟨f, hf, heq⟩ := List.mem_map.1 hbare
  have hitem : f'.bare.item = f.bare.item := by rw [heq]
  have hstartedAt : f'.bare.startedAt = f.bare.startedAt := by rw [heq]
  have hstage : f'.bare.stage = f.bare.stage := by rw [heq]
  exact ⟨f, hf, hitem, hstartedAt, hstage⟩

/-- Nothing is in flight in a run alike, if nothing was. -/
theorem Alike.flights_eq_nil {r r' : Run} (h : Alike r r') (rest : r.flights = []) :
    r'.flights = [] := by
  have hbare := h.flights
  rw [rest] at hbare
  exact List.map_eq_nil_iff.1 hbare

theorem Alike.flightIds {r r' : Run} (h : Alike r r') : r'.flightIds = r.flightIds := by
  have hids : ∀ q : Run, q.flightIds = (q.flights.map Flight.bare).map Flight.id := by
    intro q
    rw [List.map_map]
    rfl
  rw [hids, hids, h.flights]

theorem Alike.waitingIds {r r' : Run} (h : Alike r r') : r'.waitingIds = r.waitingIds := by
  unfold Run.waitingIds
  rw [h.waiting]

theorem Alike.reportIds {r r' : Run} (h : Alike r r') : r'.reportIds = r.reportIds := by
  unfold Run.reportIds
  rw [h.reports]

/-- No step is in flight in a run with nothing in flight. -/
theorem flightIds_eq_nil {r : Run} (idle : r.flights = []) : r.flightIds = [] := by
  unfold flightIds
  rw [idle]
  rfl

theorem Alike.placed {r r' : Run} (alike : Alike r r') (h : Placed r) : Placed r' where
  waiting := by rw [alike.plan, alike.waiting]; exact h.waiting
  flying := by
    intro f' hf
    obtain ⟨f, hf, hitem, -⟩ := alike.mem_flights hf
    rw [alike.plan, hitem]
    exact h.flying f hf
  reported := by rw [alike.plan, alike.reports]; exact h.reported
  own := by
    intro f' hf x hx
    obtain ⟨f, hf, hitem, -, hstage⟩ := alike.mem_flights hf
    rw [hitem]
    exact h.own f hf x (hstage ▸ hx)
  waits_once := by rw [alike.waitingIds]; exact h.waits_once
  flies_once := by rw [alike.flightIds]; exact h.flies_once
  reported_once := by rw [alike.reportIds]; exact h.reported_once
  waits_only := by
    rw [alike.flightIds, alike.waitingIds, alike.reportIds]
    exact h.waits_only
  flies_only := by
    rw [alike.flightIds, alike.reportIds]
    exact h.flies_only

/-! ## Shifts -/

theorem Shift.waitingIds {r r' : Run} {g : Flight} {told : List RunEvent} {outputs : Outputs}
    (h : Shift r r' g told outputs) : r'.waitingIds = r.waitingIds := by
  unfold Run.waitingIds
  rw [h.waiting]

theorem Shift.reportIds {r r' : Run} {g : Flight} {told : List RunEvent} {outputs : Outputs}
    (h : Shift r r' g told outputs) : r'.reportIds = r.reportIds := by
  unfold Run.reportIds
  rw [h.reports]

/-- After a shift a step in flight is the changed one or another that was there before. -/
theorem Shift.mem_flights {r r' : Run} {g : Flight} {told : List RunEvent} {outputs : Outputs}
    (h : Shift r r' g told outputs) {f : Flight} (hf : f ∈ r'.flights) :
    f = g ∨ f ∈ r.flights ∧ f.id ≠ g.id := by
  rw [h.flights] at hf
  obtain ⟨e, he, hif⟩ := List.mem_map.1 hf
  by_cases hid : e.id = g.id
  · rw [if_pos hid] at hif
    exact .inl hif.symm
  · rw [if_neg hid] at hif
    subst hif
    exact .inr ⟨he, hid⟩

/-- A shift of a step keeps everything in its place, if what is reported of the step is about
it. -/
theorem Shift.placed {r r' : Run} {f g : Flight} {told : List RunEvent} {outputs : Outputs}
    (shift : Shift r r' g told outputs) (flies : r.flight? f.id = some f) (item : g.item = f.item)
    (own : ∀ x, g.stage.report? = some x → x.item = f.item) (h : Placed r) : Placed r' where
  waiting := by rw [shift.plan, shift.waiting]; exact h.waiting
  flying := by
    intro e he
    rw [shift.plan]
    rcases shift.mem_flights he with rfl | ⟨he, -⟩
    · rw [item]
      exact h.flying f (flight?_mem flies)
    · exact h.flying e he
  reported := by rw [shift.plan, shift.reports]; exact h.reported
  own := by
    intro e he x hx
    rcases shift.mem_flights he with rfl | ⟨he, -⟩
    · rw [item]
      exact own x hx
    · exact h.own e he x hx
  waits_once := by rw [shift.waitingIds]; exact h.waits_once
  flies_once := by rw [shift.flightIds]; exact h.flies_once
  reported_once := by rw [shift.reportIds]; exact h.reported_once
  waits_only := by
    rw [shift.flightIds, shift.waitingIds, shift.reportIds]
    exact h.waits_only
  flies_only := by
    rw [shift.flightIds, shift.reportIds]
    exact h.flies_only

theorem Move.placed {r r' : Run} {f : Flight} (move : Move r r' f)
    (flies : r.flight? f.id = some f) (h : Placed r) : Placed r' := by
  cases move with
  | opens due stage shift => exact shift.placed flies rfl (by simp [Stage.report?]) h
  | prepares due input connector stage built found timed shift =>
    exact shift.placed flies rfl (by simp [Stage.report?]) h
  | calls due input connector overdue stage shift =>
    exact shift.placed flies rfl (by simp [Stage.report?]) h
  | fails due failure why shift =>
    refine shift.placed flies rfl ?_ h
    rintro x ⟨⟩
    rfl
  | succeeds due call overdue output seen outputs stage answer copyable recorded shift =>
    refine shift.placed flies rfl ?_ h
    rintro x ⟨⟩
    rfl
  | ends report stage shift =>
    refine shift.placed flies rfl ?_ h
    rintro x ⟨⟩
    exact h.own f (flight?_mem flies) report (by rw [stage]; rfl)

theorem Cut.placed {r r' : Run} {f : Flight} (cut : Cut r r' f)
    (flies : r.flight? f.id = some f) (h : Placed r) : Placed r' := by
  cases cut with
  | past stage same =>
    rw [same]
    exact { h with }
  | drops stage shift => exact shift.placed flies rfl (by simp [Stage.report?]) h
  | loses report givenUp stage shift => exact shift.placed flies rfl (by simp [Stage.report?]) h
  | stops due stage shift =>
    refine shift.placed flies rfl ?_ h
    rintro x ⟨⟩
    rfl

/-! ## The dispatcher -/

/-- A report of a step that is over belongs to a step in flight. -/
theorem Placed.mem_overReports {r : Run} (h : Placed r) {x : Report} (hx : x ∈ r.overReports) :
    ∃ f ∈ r.flights, f.stage = .ended (some x) ∧ x.item = f.item := by
  obtain ⟨f, hf, hover⟩ := List.mem_filterMap.1 hx
  refine ⟨f, hf, ?_, h.own f hf x (Stage.report?_of_overReport? hover).1⟩
  cases hstage : f.stage with
  | ended report =>
    rw [hstage] at hover
    rw [show report = some x from hover]
  | _ => rw [hstage] at hover; cases hover

/-- The reports of steps that are over are in the order of the steps in flight. -/
theorem overReports_sublist {flights : List Flight}
    (own : ∀ f ∈ flights, ∀ x, f.stage.report? = some x → x.item = f.item) :
    ((flights.filterMap fun f => f.stage.overReport?).map Report.id).Sublist
      (flights.map Flight.id) := by
  induction flights with
  | nil => exact .slnil
  | cons f rest ih =>
    rw [List.forall_mem_cons] at own
    have hrest := ih own.2
    rw [List.filterMap_cons]
    cases hover : f.stage.overReport? with
    | none => exact hrest.cons _
    | some x =>
      have hid : x.id = f.id := by
        unfold Report.id Flight.id
        rw [own.1 x (Stage.report?_of_overReport? hover).1]
      show (x.id :: _).Sublist (f.id :: _)
      rw [hid]
      exact hrest.cons_cons _

theorem Placed.collect {r : Run} (h : Placed r) : Placed r.collect := by
  -- a step that stays in flight is not over, so it is none of those reported now
  have hkept : ∀ id ∈ r.collect.flightIds, id ∈ r.flightIds ∧ id ∉ r.overReports.map Report.id := by
    rw [collect_eq]
    intro id hid
    obtain ⟨f, hf, rfl⟩ := List.mem_map.1 hid
    obtain ⟨hf, hopen⟩ := List.mem_filter.1 hf
    refine ⟨mem_flightIds hf, ?_⟩
    intro hover
    obtain ⟨x, hx, hxid⟩ := List.mem_map.1 hover
    obtain ⟨g, hg, hstage, hitem⟩ := h.mem_overReports hx
    have hsame : g.id = f.id := by
      rw [← hxid]
      unfold Report.id Flight.id
      rw [hitem]
    have hgf : g = f := List.inj_on_of_nodup_map h.flies_once hg hf hsame
    rw [← hgf, hstage] at hopen
    simp [Stage.isEnded] at hopen
  have hover : ∀ id ∈ r.overReports.map Report.id, id ∈ r.flightIds := fun id hid =>
    (overReports_sublist h.own).subset hid
  have hreportIds : r.collect.reportIds = r.reportIds ++ r.overReports.map Report.id := by
    rw [collect_eq]
    exact List.map_append
  refine
    { waiting := ?_, flying := ?_, reported := ?_, own := ?_, waits_once := ?_, flies_once := ?_,
      reported_once := ?_, waits_only := ?_, flies_only := ?_ }
  · rw [collect_eq]
    exact h.waiting
  · rw [collect_eq]
    intro f hf
    exact h.flying f (List.mem_of_mem_filter hf)
  · rw [collect_eq]
    intro x hx
    rcases List.mem_append.1 hx with hx | hx
    · exact h.reported x hx
    · obtain ⟨f, hf, -, hitem⟩ := h.mem_overReports hx
      rw [hitem]
      exact h.flying f hf
  · rw [collect_eq]
    intro f hf
    exact h.own f (List.mem_of_mem_filter hf)
  · rw [collect_eq]
    exact h.waits_once
  · rw [collect_eq]
    exact h.flies_once.sublist (List.filter_sublist.map Flight.id)
  · rw [hreportIds, List.nodup_append']
    refine ⟨h.reported_once, h.flies_once.sublist (overReports_sublist h.own), ?_⟩
    intro id hid hid'
    exact h.flies_only id (hover id hid') hid
  · intro id hid
    rw [collect_eq] at hid
    obtain ⟨hflight, hreport⟩ := h.waits_only id hid
    refine ⟨fun hmem => hflight (hkept id hmem).1, ?_⟩
    rw [hreportIds, List.mem_append, not_or]
    exact ⟨hreport, fun hmem => hflight (hover id hmem)⟩
  · intro id hid
    rw [hreportIds, List.mem_append, not_or]
    exact ⟨h.flies_only id (hkept id hid).1, (hkept id hid).2⟩

/-- A step that waits and is not `s` still waits when `s` is put in flight. -/
theorem mem_waitingIds_launch {r : Run} {s : PipelineStep} {id : String} :
    id ∈ (r.launch s).waitingIds ↔ id ∈ r.waitingIds ∧ id ≠ s.step.id := by
  unfold waitingIds launch
  simp only [List.mem_map, List.mem_filter]
  constructor
  · rintro ⟨t, ⟨ht, hne⟩, rfl⟩
    exact ⟨⟨t, ht, rfl⟩, by simpa using hne⟩
  · rintro ⟨⟨t, ht, rfl⟩, hne⟩
    exact ⟨t, ⟨ht, by simpa using hne⟩, rfl⟩

theorem flightIds_launch (r : Run) (s : PipelineStep) :
    (r.launch s).flightIds = r.flightIds ++ [s.step.id] := List.map_append

theorem Placed.launch {r : Run} (h : Placed r) {s : PipelineStep} (hs : s ∈ r.waiting) :
    Placed (r.launch s) := by
  -- the step put in flight waited, so it is in no other place
  have hid : s.step.id ∈ r.waitingIds := List.mem_map_of_mem hs
  obtain ⟨hflight, hreport⟩ := h.waits_only _ hid
  refine
    { waiting := List.filter_sublist.trans h.waiting, flying := ?_, reported := h.reported,
      own := ?_, waits_once := h.waits_once.sublist (List.filter_sublist.map _), flies_once := ?_,
      reported_once := h.reported_once, waits_only := ?_, flies_only := ?_ }
  · intro f hf
    rcases List.mem_append.1 hf with hf | hf
    · exact h.flying f hf
    · rw [List.mem_singleton.1 hf]
      exact h.waiting.subset hs
  · intro f hf x hx
    rcases List.mem_append.1 hf with hf | hf
    · exact h.own f hf x hx
    · rw [List.mem_singleton.1 hf] at hx
      cases hx
  · rw [flightIds_launch, List.nodup_append']
    refine ⟨h.flies_once, List.nodup_singleton _, ?_⟩
    intro id hmem hsingle
    exact hflight (List.mem_singleton.1 hsingle ▸ hmem)
  · intro id hmem
    obtain ⟨hwaits, hne⟩ := mem_waitingIds_launch.1 hmem
    obtain ⟨hnotFlight, hnotReport⟩ := h.waits_only id hwaits
    refine ⟨?_, hnotReport⟩
    rw [flightIds_launch, List.mem_append, not_or]
    exact ⟨hnotFlight, fun hsingle => hne (List.mem_singleton.1 hsingle)⟩
  · intro id hmem
    rw [flightIds_launch] at hmem
    rcases List.mem_append.1 hmem with hmem | hmem
    · exact h.flies_only id hmem
    · rw [List.mem_singleton.1 hmem]
      exact hreport

/-- Every change leaves each step in one place. -/
theorem Placed.change {r r' : Run} {lost : List String} (h : Placed r) (change : Change r r' lost) :
    Placed r' := by
  cases change with
  | stirs stir => exact stir.toAlike.placed h
  | moves flies move => exact move.placed flies h
  | cuts called flies cut => exact cut.placed flies h
  | heeds running asked => exact { h with }
  | collects running => exact h.collect
  | launches running may first => exact h.launch (List.mem_of_find?_eq_some first)
  | concludes running idle stuck => exact (conclude_alike r).placed h
  | closes phase => exact (close_alike r _).placed h

theorem Changes.placed {r r' : Run} {lost : List String} (changes : Changes r r' lost)
    (h : Placed r) : Placed r' :=
  changes.induction (motive := fun q _ => Placed q) [] h fun _ _ _ _ hq change => hq.change change

end Run

end Conduit

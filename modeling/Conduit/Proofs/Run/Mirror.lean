import Conduit.Proofs.Run.Progress
import Conduit.Proofs.Run.Protocol

/-!
# The record of a run mirrors its events

Whoever is told of an event finds in the record of the run exactly the steps that were told to begin
and not to end, each once, and the run shown as running from the first step that begins. When the
run is over no step is in progress and the state is terminal.

* `Run.Mirrors` — a record shows what events tell;
* `Run.mirrors_shownBy` — it does when every step is told to begin once and then to end once;
* `Run.Faithful` — the invariant, kept by every change (`Run.Faithful.change`);
* `Run.Tracked.told_last` — the result of a run is the last that is told;
* `Run.Mirrored`, `Run.Begins.mirrored` — what holds in all of the history of a run.
-/

namespace Conduit.Run

open RunEvent

/-! ## What events tell of the steps in progress -/

/-- A record shows what events tell: the steps in progress are those that were told to begin and not
to end, each once, and the run is shown as running when one was told to begin. -/
structure Mirrors (v : View) (events : List RunEvent) : Prop where
  current : ∀ id, id ∈ v.2 ↔
    (∃ e ∈ events, e.startOf? = some id) ∧ ∀ e ∈ events, e.endOf? ≠ some id
  once : v.2.Nodup
  running : (∃ e ∈ events, e.startOf?.isSome = true) → v.1 = .running

/-- What a record shows before anything is told. -/
def blank : View := (.pending, [])

/-- What a record shows after events. -/
def shownBy (events : List RunEvent) : View := events.foldl after blank

/-- What can be told of a step: nothing, that it begins, or that it begins and then that it ends. -/
def InStages (notices : List Notice) : Prop :=
  notices = [] ∨ notices = [.start] ∨ ∃ status, notices = [.start, .stop status]

theorem InStages.of_append {front back : List Notice} (h : InStages (front ++ back)) :
    InStages front := by
  rcases h with h | h | ⟨status, h⟩
  · exact .inl (List.append_eq_nil_iff.1 h).1
  · rcases List.append_eq_singleton_iff.1 h with ⟨hfront, -⟩ | ⟨hfront, -⟩
    · exact .inl hfront
    · exact .inr (.inl hfront)
  · rcases List.append_eq_cons_iff.1 h with ⟨hfront, -⟩ | ⟨rest, hfront, hrest⟩
    · exact .inl hfront
    · rcases List.append_eq_singleton_iff.1 hrest.symm with ⟨hnil, -⟩ | ⟨hlast, -⟩
      · exact .inr (.inl (by rw [hfront, hnil]))
      · exact .inr (.inr ⟨status, by rw [hfront, hlast]⟩)

/-- Of a step that is told to begin nothing was told before. -/
theorem InStages.eq_nil {front : List Notice} (h : InStages (front ++ [.start])) : front = [] := by
  rcases h with h | h | ⟨status, h⟩
  · simp at h
  · exact (List.append_inj' (h : front ++ [Notice.start] = [] ++ [.start]) rfl).1
  · have hsplit : front ++ [Notice.start] = [.start] ++ [.stop status] := h
    exact absurd (List.append_inj' hsplit rfl).2 (by simp)

/-- The steps of which the start alone is told are those that were told to begin and not to end. -/
theorem eq_start_iff {events : List RunEvent} {id : String}
    (stages : InStages (events.filterMap (noticeOf id))) :
    events.filterMap (noticeOf id) = [.start] ↔
      (∃ e ∈ events, e.startOf? = some id) ∧ ∀ e ∈ events, e.endOf? ≠ some id := by
  constructor
  · intro hstart
    have hmem : .start ∈ events.filterMap (noticeOf id) := hstart ▸ List.mem_cons_self
    obtain ⟨e, he, hnotice⟩ := List.mem_filterMap.1 hmem
    refine ⟨⟨e, he, noticeOf_eq_start_iff.1 hnotice⟩, fun f hf hend => ?_⟩
    obtain ⟨status, hnotice⟩ := noticeOf_eq_stop_iff.2 hend
    have hstop : .stop status ∈ events.filterMap (noticeOf id) :=
      List.mem_filterMap.2 ⟨f, hf, hnotice⟩
    rw [hstart] at hstop
    simp at hstop
  · rintro ⟨⟨e, he, hstart⟩, hnone⟩
    have hmem : .start ∈ events.filterMap (noticeOf id) :=
      List.mem_filterMap.2 ⟨e, he, noticeOf_eq_start_iff.2 hstart⟩
    rcases stages with h | h | ⟨status, h⟩
    · rw [h] at hmem
      cases hmem
    · exact h
    · have hstop : .stop status ∈ events.filterMap (noticeOf id) := by
        rw [h]
        simp
      obtain ⟨f, hf, hnotice⟩ := List.mem_filterMap.1 hstop
      exact absurd (noticeOf_eq_stop_iff.1 ⟨status, hnotice⟩) (hnone f hf)

theorem shownBy_concat (events : List RunEvent) (e : RunEvent) :
    shownBy (events ++ [e]) = e.after (shownBy events) := by
  unfold shownBy
  rw [List.foldl_append]
  rfl

/-- An end of a step takes it from the steps in progress. -/
theorem mem_erase_iff_of_stop {current : List String} {events : List RunEvent} {e : RunEvent}
    {step id : String} {status : StepStatus} (about : e.step? = some step)
    (stops : e.noticeOf step = some (.stop status)) (once : current.Nodup)
    (shown : ∀ id, id ∈ current ↔ events.filterMap (noticeOf id) = [.start]) :
    id ∈ current.erase step ↔ (events ++ [e]).filterMap (noticeOf id) = [.start] := by
  rw [once.mem_erase_iff, List.filterMap_append]
  by_cases hid : id = step
  · subst hid
    rw [List.filterMap_cons_some stops, List.filterMap_nil]
    constructor
    · exact fun h => absurd rfl h.1
    · intro h
      have hsplit : events.filterMap (noticeOf id) ++ [.stop status] = [] ++ [.start] := h
      exact absurd (List.append_inj' hsplit rfl).2 (by simp)
  · rw [List.filterMap_cons_none (noticeOf_of_ne about hid), List.filterMap_nil, List.append_nil,
      shown]
    exact and_iff_right hid

/-- What a record shows after events in which every step is told to begin and then to end. -/
theorem shownBy_spec {events : List RunEvent}
    (stages : ∀ id, InStages (events.filterMap (noticeOf id))) :
    (∀ id, id ∈ (shownBy events).2 ↔ events.filterMap (noticeOf id) = [.start]) ∧
      (shownBy events).2.Nodup ∧
      ((∃ e ∈ events, e.startOf?.isSome = true) → (shownBy events).1 = .running) := by
  -- one event at a time, from the first to the last
  induction events using List.reverseRecOn with
  | nil => exact ⟨by simp [shownBy, blank], .nil, by simp⟩
  | append_singleton events e ih =>
    have hbefore : ∀ id, InStages (events.filterMap (noticeOf id)) := by
      intro id
      have h := stages id
      rw [List.filterMap_append] at h
      exact h.of_append
    obtain ⟨hshown, honce, hrunning⟩ := ih hbefore
    have hkept : e.startOf? = none → (∃ f ∈ events ++ [e], f.startOf?.isSome = true) →
        (shownBy events).1 = .running := by
      rintro hnone ⟨f, hf, hstart⟩
      rcases List.mem_append.1 hf with hf | hf
      · exact hrunning ⟨f, hf, hstart⟩
      · rw [List.mem_singleton.1 hf, hnone] at hstart
        cases hstart
    rw [shownBy_concat]
    cases e with
    | started s =>
      have htells : noticeOf s.step.id (.started s) = some .start := if_pos rfl
      have hnil : events.filterMap (noticeOf s.step.id) = [] := by
        have h := stages s.step.id
        rw [List.filterMap_append, List.filterMap_cons_some htells] at h
        exact h.eq_nil
      have hnew : s.step.id ∉ (shownBy events).2 := by
        rw [hshown, hnil]
        simp
      refine ⟨fun id => ?_, ?_, fun _ => rfl⟩
      · show id ∈ (shownBy events).2 ++ [s.step.id] ↔ _
        rw [List.mem_append, List.mem_singleton, List.filterMap_append]
        by_cases hid : id = s.step.id
        · subst hid
          rw [hnil, List.filterMap_cons_some htells]
          exact ⟨fun _ => rfl, fun _ => .inr rfl⟩
        · rw [List.filterMap_cons_none (noticeOf_of_ne rfl hid), List.filterMap_nil,
            List.append_nil, hshown]
          exact or_iff_left hid
      · exact honce.append (List.nodup_singleton _) fun id hid hid' =>
          hnew (List.mem_singleton.1 hid' ▸ hid)
    | completed s output micros =>
      exact ⟨fun id => mem_erase_iff_of_stop rfl (if_pos rfl) honce hshown, honce.erase _,
        hkept rfl⟩
    | stopped s status failure micros =>
      exact ⟨fun id => mem_erase_iff_of_stop rfl (if_pos rfl) honce hshown, honce.erase _,
        hkept rfl⟩
    | done result =>
      refine ⟨fun id => ?_, honce, hkept rfl⟩
      rw [List.filterMap_append]
      show id ∈ (shownBy events).2 ↔ events.filterMap (noticeOf id) ++ [] = [.start]
      rw [List.append_nil]
      exact hshown id

/-- A record that follows such events mirrors them. -/
theorem mirrors_shownBy {events : List RunEvent}
    (stages : ∀ id, InStages (events.filterMap (noticeOf id))) :
    Mirrors (shownBy events) events := by
  obtain ⟨hshown, honce, hrunning⟩ := shownBy_spec stages
  exact ⟨fun id => (hshown id).trans (eq_start_iff (stages id)), honce, hrunning⟩

/-! ## The invariant -/

/-- Of every step nothing is told, or that it begins, or that it begins and then that it ends. -/
theorem Booked.stages {r : Run} {lost : List String} (h : Booked r lost) (id : String) :
    InStages (r.told id) := by
  by_cases hlost : id ∈ lost
  · obtain ⟨status, _, htold, -⟩ := h.begun id hlost
    exact .inr (.inr ⟨status, htold⟩)
  by_cases hflies : id ∈ r.flightIds
  · obtain ⟨f, hf, rfl⟩ := List.mem_map.1 hflies
    have hagrees := h.flights f hf
    cases hstage : f.stage with
    | queued => exact .inl (hagrees.of_queued hstage).1
    | opening => exact .inr (.inl (hagrees.of_isUnderway (by rw [hstage]; rfl)).1)
    | entering input connector =>
      exact .inr (.inl (hagrees.of_isUnderway (by rw [hstage]; rfl)).1)
    | calling call overdue => exact .inr (.inl (hagrees.of_isUnderway (by rw [hstage]; rfl)).1)
    | closing x =>
      exact .inr (.inr ⟨_, (hagrees.of_report? (x := x) (by rw [hstage]; rfl)).1⟩)
    | ended report =>
      cases report with
      | some x => exact .inr (.inr ⟨_, (hagrees.of_report? (x := x) (by rw [hstage]; rfl)).1⟩)
      | none =>
        unfold Agrees at hagrees
        rw [hstage] at hagrees
        exact .inl (hagrees.resolve_right hlost).1
  by_cases hreported : id ∈ r.reportIds
  · obtain ⟨x, hx, rfl⟩ := List.mem_map.1 hreported
    exact .inr (.inr ⟨x.status, (h.reports x hx).1⟩)
  by_cases hwaits : id ∈ r.waitingIds
  · exact .inl (h.waiting id hwaits).1
  · exact .inl (h.others id hwaits hflies hreported hlost).1

/-- The record of a run follows its events until it is over, and a listener sees it do so. Its
result is told last. -/
structure Faithful (r : Run) (lost : List String) : Prop where
  placed : Placed r
  booked : Booked r lost
  idle : r.phase ≠ .running → r.flights = []
  view : r.isOver = false → r.view = shownBy r.events
  ended : r.isOver = true → r.current = [] ∧ r.state.isTerminal = true
  ending : ∀ result due, r.phase = .closing result due → result.state.isTerminal = true
  told : ∀ result, r.phase.result? = some result → ∃ before, r.events = before ++ [.done result]
  called : r.reader = none → r.sightings.map Sighting.view = views blank r.events

/-- A run with a step in flight is running. -/
theorem Faithful.running {r : Run} {lost : List String} (h : Faithful r lost) {id : String}
    {f : Flight} (flies : r.flight? id = some f) : r.phase = .running := by
  by_contra hended
  have hmem := flight?_mem flies
  rw [h.idle hended] at hmem
  cases hmem

/-- What a listener sees of a run whose record follows its events. -/
theorem Shows.called_of_view {r r' : Run} {told : List RunEvent} (shows : Shows r r' told)
    (events : r'.events = r.events ++ told) (view : told = [] ∨ r.view = shownBy r.events)
    (h : r.reader = none → r.sightings.map Sighting.view = views blank r.events)
    (listens : r'.reader = none) : r'.sightings.map Sighting.view = views blank r'.events := by
  have hlistens := shows.read.1 listens
  rw [shows.called hlistens, h hlistens, events, views_append]
  rcases view with rfl | hview
  · rfl
  · rw [hview]
    rfl

theorem Stir.faithful {r r' : Run} {lost : List String} (stir : Stir r r')
    (h : Faithful r lost) : Faithful r' lost where
  placed := stir.toAlike.placed h.placed
  booked := stir.toAlike.booked h.booked
  idle hended := stir.flights_eq_nil (h.idle fun hrunning => by
    have hphase := stir.phase
    rw [hrunning] at hphase
    exact hended (Phase.eq_running_of_bare hphase))
  view hover := by
    rw [isOver_bare stir.phase] at hover
    rw [stir.quiet, stir.shows.view]
    exact h.view hover
  ended hover := by
    rw [isOver_bare stir.phase] at hover
    have hview : (r'.state, r'.current) = (r.state, r.current) := stir.shows.view
    obtain ⟨hstate, hcurrent⟩ := Prod.mk.inj hview
    rw [hstate, hcurrent]
    exact h.ended hover
  ending result due hclosing := by
    have hphase := stir.phase
    rw [hclosing] at hphase
    cases hr : r.phase with
    | closing result' due' =>
      rw [hr] at hphase
      cases hphase
      exact h.ending _ _ hr
    | _ => rw [hr] at hphase; cases hphase
  told result hresult := by
    rw [← Phase.result?_bare, stir.phase, Phase.result?_bare] at hresult
    rw [stir.quiet]
    exact h.told result hresult
  called := stir.shows.called_of_view (by rw [stir.quiet, List.append_nil]) (.inl rfl) h.called

/-- A step that goes on or is interrupted leaves the record in step with the events. -/
theorem Shift.faithful {r r' : Run} {f g : Flight} {told : List RunEvent} {outputs : Outputs}
    {lost more : List String} (shift : Shift r r' g told outputs)
    (flies : r.flight? f.id = some f) (placed : Placed r') (booked : Booked r' (lost ++ more))
    (h : Faithful r lost) : Faithful r' (lost ++ more) := by
  have hrunning := h.running flies
  have hrunning' : r'.phase = .running := shift.phase.trans hrunning
  have hover : r.isOver = false := by rw [isOver, hrunning]
  have hover' : r'.isOver = false := by rw [isOver, hrunning']
  refine
    { placed := placed, booked := booked, idle := fun hended => absurd hrunning' hended
      view := fun _ => ?_, ended := fun hended => ?_, ending := fun result due hclosing => ?_
      told := fun result hresult => ?_
      called := shift.shows.called_of_view shift.events (.inr (h.view hover)) h.called }
  · rw [shift.shows.view, h.view hover, shift.events, shownBy, shownBy, List.foldl_append]
  · rw [hover'] at hended
    cases hended
  · rw [hrunning'] at hclosing
    cases hclosing
  · rw [hrunning'] at hresult
    cases hresult

/-- A running run keeps its record in step with the events if neither changes. -/
theorem Faithful.of_running {r r' : Run} {lost gone : List String} (h : Faithful r lost)
    (running : r'.phase = .running) (before : r.phase = .running) (placed : Placed r')
    (booked : Booked r' gone) (view : r'.view = r.view) (events : r'.events = r.events)
    (reader : r'.reader = r.reader) (sightings : r'.sightings = r.sightings) :
    Faithful r' gone where
  placed := placed
  booked := booked
  idle hended := absurd running hended
  view _ := by
    rw [view, events]
    exact h.view (by rw [isOver, before])
  ended hover := by
    rw [isOver, running] at hover
    cases hover
  ending result due hclosing := by
    rw [running] at hclosing
    cases hclosing
  told result hresult := by
    rw [running] at hresult
    cases hresult
  called hlistens := by
    rw [sightings, events]
    exact h.called (reader ▸ hlistens)

/-- Reporting the end of a run leaves the record as it is. -/
theorem announce_shows (r : Run) (result : RunResult) :
    Shows r (r.announce result) [.done result] := by
  have hemit := emit_shows r (.done result)
  have hqueue : ∀ q : Run, Resembles q (q.queue .finish) := by
    intro q
    obtain ⟨hview, hreader, hsightings, hevents⟩ := queue_view q .finish
    exact ⟨hview, hreader, hsightings, hevents⟩
  have hcancelled : ∀ q : Run, (q.queue .finish).cancelled = q.cancelled := by
    intro q
    unfold queue
    split <;> rfl
  unfold announce
  dsimp only
  split
  · exact hemit.congr (.refl r) rfl ⟨rfl, rfl, rfl, rfl⟩ id .rfl (by simp)
  · have hclosing : Shows r { r.emit (.done result) with phase := .closing result none }
        [.done result] :=
      hemit.congr (.refl r) rfl ⟨rfl, rfl, rfl, rfl⟩ id .rfl .rfl
    exact hclosing.congr (.refl r) rfl (hqueue _) (fun hc => (hcancelled _).trans hc) .rfl
      (mem_ready_queue_of_ne Turn.noConfusion)
  · exact hemit.congr (.refl r) rfl ⟨rfl, rfl, rfl, rfl⟩ id .rfl .rfl

/-- A run with nothing in flight reports its end. -/
theorem Faithful.announce {r : Run} {lost : List String} (h : Faithful r lost)
    (idle : r.flights = []) (pending : r.isOver = false) {result : RunResult}
    (terminal : result.state.isTerminal = true) : Faithful (r.announce result) lost := by
  have hshows := announce_shows r result
  obtain ⟨_, _, _, _, _, due, hannounce, -⟩ := announce_eq r result
  have hphase : (r.announce result).phase = .closing result due := by rw [hannounce]
  have hevents : (r.announce result).events = r.events ++ [.done result] := by rw [hannounce]
  have hview := h.view pending
  refine
    { placed := (announce_alike r result).placed h.placed
      booked := (announce_alike r result).booked h.booked
      idle := fun _ => ?_, view := fun _ => ?_
      ended := fun hover => ?_, ending := fun other due' hclosing => ?_
      told := fun other hother => ⟨r.events, ?_⟩
      called := hshows.called_of_view hevents (.inr hview) h.called }
  · rw [hannounce]
    exact idle
  · rw [hevents, hshows.view, hview, shownBy_concat]
    rfl
  · rw [isOver, hphase] at hover
    cases hover
  · rw [hphase] at hclosing
    cases hclosing
    exact terminal
  · rw [hphase] at hother
    cases hother
    exact hevents

/-- A run that ends shows that it does. -/
theorem Faithful.close {r : Run} {lost : List String} (h : Faithful r lost)
    (idle : r.flights = []) {ending : Ending}
    (reported : ∀ result, ending.result? = some result →
      result.state.isTerminal = true ∧ ∃ before, r.events = before ++ [.done result]) :
    Faithful (r.close ending) lost where
  placed := (close_alike r ending).placed h.placed
  booked := (close_alike r ending).booked h.booked
  idle _ := idle
  view hover := by cases hover
  ended _ := by
    have hfailed : (if r.state.isTerminal then r.state else .failed).isTerminal = true := by
      split
      · assumption
      · rfl
    refine ⟨rfl, ?_⟩
    cases ending with
    | finished result => exact (reported result rfl).1
    | forsaken result => exact hfailed
    | raised trouble => exact hfailed
    | abandoned => exact hfailed
  ending result due hclosing := by cases hclosing
  told result hresult := (reported result hresult).2
  called := h.called

theorem Faithful.conclude {r : Run} {lost : List String} (h : Faithful r lost)
    (running : r.phase = .running) (idle : r.flights = []) : Faithful r.conclude lost := by
  unfold Run.conclude
  split
  · next result hresult =>
    exact h.announce idle (by rw [isOver, running]) (isTerminal_of_result hresult)
  · exact h.close idle nofun

theorem Faithful.change {r r' : Run} {lost more : List String} (h : Faithful r lost)
    (change : Change r r' more) : Faithful r' (lost ++ more) := by
  have hplaced := h.placed.change change
  have hbooked := h.booked.change h.placed change
  cases change with
  | stirs stir => simpa using stir.faithful h
  | moves flies move =>
    cases move <;> rename_i shift <;> exact shift.faithful flies hplaced hbooked h
  | cuts called flies cut =>
    cases cut with
    | past stage same =>
      have hrunning := h.running flies
      rw [same] at hplaced hbooked ⊢
      exact h.of_running hrunning hrunning hplaced hbooked rfl rfl rfl rfl
    | drops stage shift => exact shift.faithful flies hplaced hbooked h
    | loses report givenUp stage shift => exact shift.faithful flies hplaced hbooked h
    | stops due stage shift => exact shift.faithful flies hplaced hbooked h
  | heeds running asked => exact h.of_running running running hplaced hbooked rfl rfl rfl rfl
  | collects running =>
    rw [collect_eq] at hplaced hbooked ⊢
    exact h.of_running running running hplaced hbooked rfl rfl rfl rfl
  | launches running may first =>
    exact h.of_running running running hplaced hbooked rfl rfl rfl rfl
  | concludes running idle stuck => simpa using h.conclude running idle
  | closes phase =>
    rw [List.append_nil]
    have hidle : r.flights = [] := h.idle (by rw [phase]; simp)
    refine h.close hidle fun result hresult => ?_
    rw [Delivery.result?_endingOf] at hresult
    cases hresult
    exact ⟨h.ending _ _ phase, h.told _ (by rw [phase]; rfl)⟩

/-! ## Histories -/

/-- A run whose record follows its events, whatever reports were lost. -/
def Tracked (r : Run) : Prop := ∃ lost, Faithful r lost

theorem Tracked.placed {r : Run} (h : Tracked r) : Placed r := h.elim fun _ h => h.placed

theorem Changes.tracked {r r' : Run} {lost : List String} (changes : Changes r r' lost)
    (h : Tracked r) : Tracked r' := by
  obtain ⟨gone, h⟩ := h
  exact ⟨_, changes.induction gone h fun _ _ _ _ hq change => hq.change change⟩

theorem Tracked.stoppedBy {r : Run} (h : Tracked r) (limit : TimeLimit) :
    Tracked (r.stoppedBy limit) := by
  obtain ⟨gone, h⟩ := h
  exact ⟨gone, { h with placed := { h.placed with }, booked := { h.booked with } }⟩

theorem Tracked.perform {r : Run} (h : Tracked r) (a : Act) : Tracked (r.perform a) :=
  perform_induction (motive := fun q _ => Tracked q) [] a h.placed.flies_once h
    (fun _ _ _ _ hq change => change.changes.tracked hq) fun limit _ _ => h.stoppedBy limit

theorem Tracked.performAll {r : Run} (h : Tracked r) (acts : List Act) :
    Tracked (r.performAll acts) :=
  performAll_induction acts h fun _ a hq => hq.perform a

theorem Tracked.settleUpTo (fuel : Nat) {r : Run} (h : Tracked r) :
    Tracked (settleUpTo fuel r) := by
  obtain ⟨_, hdrain⟩ := r.drain_changes
  obtain ⟨_, hchanges⟩ := h.placed.settleUpTo_changes fuel
  exact (hdrain.trans hchanges).tracked h

theorem Tracked.tick {r : Run} (h : Tracked r) (time : Nat) : Tracked (r.tick time) := by
  have hsettled : Tracked (r.woken time).settle :=
    .settleUpTo _ ((r.woken_changes time).tracked h)
  rw [tick_eq]
  unfold expireIfDue
  split
  · next limit _ _ =>
    split
    · exact .settleUpTo _ ((expire_changes hsettled.placed.flies_once limit).tracked
        (hsettled.stoppedBy limit))
    · exact hsettled
  · exact hsettled

/-- Before anything is dispatched nothing is told, and the record shows it. -/
theorem Tracked.loaded {plan : Plan} (formed : plan.pipeline.WellFormed) (now : Nat)
    (environment : Environment) (reader : Option Reader) (cancelled : Bool) (inputs : Members) :
    Tracked (loaded plan now environment reader cancelled inputs) := by
  have hsound : Sound (Run.loaded plan now environment reader cancelled inputs) [] :=
    .loaded formed now environment reader cancelled inputs
  exact ⟨[],
    { placed := hsound.placed, booked := hsound.booked, idle := fun _ => rfl, view := fun _ => rfl
      ended := nofun, ending := nofun, told := nofun, called := fun _ => rfl }⟩

/-- A run that was not begun has nothing to show, until it reports that it is refused. -/
theorem Faithful.prepare (plan : Plan) (now : Nat) (environment : Environment)
    (reader : Option Reader) (cancelled : Bool) :
    Faithful (prepare plan now environment reader cancelled) [] where
  placed :=
    { waiting := List.nil_sublist _, flying := by simp [Run.prepare],
      reported := by simp [Run.prepare], own := by simp [Run.prepare], waits_once := .nil,
      flies_once := .nil, reported_once := .nil, waits_only := by simp [Run.prepare, waitingIds],
      flies_only := by simp [Run.prepare, flightIds] }
  booked :=
    { outputs := .nil, waiting := by simp [Run.prepare, waitingIds],
      flights := by simp [Run.prepare], reports := by simp [Run.prepare], begun := by simp,
      gone := by simp, cut := by simp, others := fun _ _ _ _ _ => ⟨rfl, rfl⟩ }
  idle _ := rfl
  view _ := rfl
  ended := nofun
  ending := nofun
  told := nofun
  called _ := rfl

/-- The record of a run follows its events from its entry on. -/
theorem Tracked.enter {plan : Plan} (formed : plan.pipeline.WellFormed) (now : Nat)
    (environment : Environment) (reader : Option Reader) (cancelled : Bool) :
    Tracked (enter plan now environment reader cancelled) := by
  have hfresh := Faithful.prepare plan now environment reader cancelled
  unfold Run.enter
  dsimp only
  split
  · exact ⟨_, hfresh.close rfl nofun⟩
  · exact ⟨_, hfresh.announce rfl rfl rfl⟩
  · next inputs _ =>
    split
    · exact ⟨_, hfresh.close rfl nofun⟩
    · exact (begin_changes plan now environment reader cancelled inputs).tracked
        (.loaded formed now environment reader cancelled inputs)

theorem Tracked.start {plan : Plan} (formed : plan.pipeline.WellFormed) (now : Nat)
    (environment : Environment) (reader : Option Reader) (cancelled : Bool) :
    Tracked (start plan now environment reader cancelled) :=
  .settleUpTo _ (.enter formed now environment reader cancelled)

/-- A run that ended with a result has told it, and nothing after it. -/
theorem Tracked.told_last {r : Run} (h : Tracked r) {result : RunResult} {time : Nat}
    (phase : r.phase = .over (.finished result) time) :
    ∃ before, r.events = before ++ [.done result] := by
  obtain ⟨lost, h⟩ := h
  exact h.told result (by rw [phase]; rfl)

/-! ## What is seen of a run -/

/-- The record of a run mirrors the events that were told until the run is over, as does what a
listener sees of it over each event. Then no step is in progress, and the state is terminal. -/
structure Mirrored (r : Run) : Prop where
  progress : r.isOver = false → Mirrors r.view r.events
  told : r.reader = none → r.sightings.map Sighting.event = r.events ∧
    ∀ front x back, r.sightings = front ++ x :: back →
      Mirrors (x.state, x.current) ((front ++ [x]).map Sighting.event)
  ended : r.isOver = true → r.current = [] ∧ r.state.isTerminal = true

theorem views_map_fst (v : View) (events : List RunEvent) :
    (views v events).map Prod.fst = events := by
  induction events generalizing v with
  | nil => rfl
  | cons e es ih => exact congrArg _ (ih _)

/-- What is seen over an event is the record after it and all before. -/
theorem views_split {events : List RunEvent} {front back : List (RunEvent × View)} {e : RunEvent}
    {v : View} (split : views blank events = front ++ (e, v) :: back) :
    v = shownBy (front.map Prod.fst ++ [e]) := by
  have hevents : events = (front.map Prod.fst ++ [e]) ++ back.map Prod.fst := by
    rw [← views_map_fst blank events, split]
    simp
  rw [hevents, views_append, views_append, List.append_assoc] at split
  have hlength : (views blank (front.map Prod.fst)).length = front.length := by
    rw [← List.length_map Prod.fst, views_map_fst, List.length_map]
  have hlast := (List.cons.inj (List.append_inj split hlength).2).1
  rw [shownBy_concat]
  exact (congrArg Prod.snd hlast).symm

theorem Tracked.mirrored {r : Run} (h : Tracked r) : Mirrored r := by
  obtain ⟨lost, h⟩ := h
  refine ⟨fun hover => ?_, fun hlistens => ⟨?_, fun front x back hsplit => ?_⟩, h.ended⟩
  · rw [h.view hover]
    exact mirrors_shownBy h.booked.stages
  · rw [← views_map_fst blank r.events, ← h.called hlistens, List.map_map]
    rfl
  · have hcalled := h.called hlistens
    rw [hsplit, List.map_append, List.map_cons] at hcalled
    have hfront : (front ++ [x]).map Sighting.event =
        (front.map Sighting.view).map Prod.fst ++ [x.event] := by
      rw [List.map_append, List.map_map]
      rfl
    have hshown : (x.state, x.current) = shownBy ((front ++ [x]).map Sighting.event) := by
      rw [hfront]
      exact views_split hcalled.symm
    rw [hshown]
    have hevents : r.events =
        (front ++ [x]).map Sighting.event ++ back.map Sighting.event := by
      rw [← views_map_fst blank r.events, ← hcalled]
      simp [Sighting.view, Function.comp_def]
    refine mirrors_shownBy fun id => ?_
    have hstages : InStages (r.events.filterMap (noticeOf id)) := h.booked.stages id
    rw [hevents, List.filterMap_append] at hstages
    exact hstages.of_append

end Conduit.Run
